import SystemOnChip.Region

/-! Why a declaration or the composition of a system is refused. -/
namespace SystemOnChip

inductive Fault where
  | unsupported (setting value : String)
  | duplicateRegionName (name : String)
  | duplicateMasterName (name : String)
  | duplicateSlaveName (name : String)
  | duplicateLocationName (space name : String)
  | duplicateLocationNumber (space : String) (slot : UInt32) (owner : String)
  | regionOverlap (first second : String)
  | misalignedRegion (name : String) (origin : Option UInt64) (size : UInt64)
  | uncachedOutsideWindow (name : String) (origin size : UInt64)
  | outsideAddressSpace (name : String) (origin size : UInt64) (addressWidth : UInt32)
  | insufficientAddressSpace (name : String) (size : UInt64) (cached : Bool)
  | capacityExhausted (space : String) (capacity : UInt32)
  | locationOutOfRange (space : String) (slot capacity : UInt32)
  | unsupportedIrqCount (count : UInt32)
  | undefinedLocation (space name : String)
  | missingNameOrRegion
  | unknownRegion (name : String)
  | missingRequiredRegion (name : String)
  | missingEventSource (name : String)
  | dataWidthMismatch (name : String) (actual expected : UInt32)
  | unalignedDecoderRegion (name : String) (origin size : UInt64)
  | undecodedSlaveRegion (name : String) (kind : RegionKind)
  | unplacedRegion (name : String) (kind : RegionKind)
  | duplicateConstant (name : String)
  | duplicateComponent (name : String)
deriving DecidableEq

/-- An origin that may be missing; a present one stands on a line of its own. -/
def Fault.originText : Option UInt64 → String
  | none => "None"
  | some origin => s!"Some(\n    {Text.hex origin},\n)"

def Fault.message : Fault → String
  | unsupported setting value => s!"unsupported {setting}: {value}"
  | duplicateRegionName name => s!"region {name} already declared"
  | duplicateMasterName name => s!"{name} already declared as bus master"
  | duplicateSlaveName name => s!"{name} already declared as bus slave"
  | duplicateLocationName space name => s!"{space} name {name} already used"
  | duplicateLocationNumber space slot owner =>
    s!"{space} location {slot} already used (by {owner})"
  | regionOverlap first second => s!"region overlap between {first} and {second}"
  | misalignedRegion name origin size =>
    s!"region {name} is misaligned (origin={originText origin}, size={Text.hex size}); " ++
      "size must be a power of two and origin a multiple of size"
  | uncachedOutsideWindow name origin size =>
    s!"region {name} is not cached but not inside an IO region " ++
      s!"(origin={Text.address origin}, size={Text.hex size})"
  | outsideAddressSpace name origin size addressWidth =>
    s!"region {name} lies outside the {addressWidth}-bit address space " ++
      s!"(origin={Text.hex origin}, size={Text.hex size})"
  | insufficientAddressSpace name size cached =>
    s!"not enough address space to allocate {name} ({Text.hex size} bytes, cached={cached})"
  | capacityExhausted space capacity => s!"not enough {space} locations (capacity {capacity})"
  | locationOutOfRange space slot capacity =>
    s!"{space} location {slot} out of range (up to {capacity})"
  | unsupportedIrqCount count => s!"unsupported IRQ count: {count} (up to 32)"
  | undefinedLocation space name => s!"undefined {space} location {name}"
  | missingNameOrRegion => "bus slave needs at least a name or a region"
  | unknownRegion name => s!"unable to find region {name}"
  | missingRequiredRegion name => s!"{name} region must be defined as bus or linker region"
  | missingEventSource name => s!"no event source found on {name}"
  | dataWidthMismatch name actual expected =>
    s!"{name} data width mismatch ({actual} vs {expected})"
  | unalignedDecoderRegion name origin size =>
    s!"decoder region {name} origin {Text.address origin} is not aligned on size {Text.hex size}"
  | undecodedSlaveRegion name kind =>
    s!"bus slave {name} needs a decoded region, got a {kind.label} region"
  | unplacedRegion name kind =>
    s!"{kind.label} region {name} has no origin and cannot be allocated"
  | duplicateConstant name => s!"constant {name} already declared"
  | duplicateComponent name => s!"component {name} already declared"

end SystemOnChip
