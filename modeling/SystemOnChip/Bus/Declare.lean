import SystemOnChip.Bus.Basic
import SystemOnChip.Decoder
import SystemOnChip.Placement

/-! Declarations on a bus: regions, masters and slaves. Each of them asks for a
verdict first and changes the bus only if that succeeds. -/
namespace SystemOnChip.Bus

def fits (bus : Bus) (origin size : UInt64) : Bool :=
  origin.toNat + size.toNat < UInt64.size && origin + size ≤ bus.addressLimit

def isUncacheable (bus : Bus) (region : Region) : Bool :=
  bus.windows.entries.any fun window => region.isWithin window.2

/-- Fails with the first overlap among the regions of a table and a new one. -/
def requireDisjoint (table : RegionTable) (name : String) (region : Region) : Verdict Unit :=
  match findOverlap (table.push name region).entries with
  | some (first, second) => .fail (.regionOverlap first second)
  | none => pure ()

/-- What a placed region has to satisfy, by its kind. -/
def requireLegal (bus : Bus) (name : String) (origin : UInt64) (region : Region) :
    Verdict Unit := do
  .require (region.kind == .linker || bus.fits origin region.size)
    (.outsideAddressSpace name origin region.size bus.addressWidth)
  match region.kind with
  | .linker => pure ()
  | .io => requireDisjoint bus.windows name region
  | .bus =>
    .require (region.cached || bus.isUncacheable region)
      (.uncachedOutsideWindow name origin region.size)
    requireDisjoint bus.regions name region

/-- The region that a declaration stores: the given one once it is found legal,
with an origin chosen for it if it has none. -/
def settle (bus : Bus) (name : String) (region : Region) : Verdict Region := do
  .require (!(bus.regions.contains name || bus.windows.contains name ||
    bus.linkerRegions.contains name)) (.duplicateRegionName name)
  .require region.isAligned (.misalignedRegion name region.origin region.size)
  match region.origin with
  | some origin =>
    bus.requireLegal name origin region
    pure region
  | none =>
    .require (region.kind == .bus) (.unplacedRegion name region.kind)
    let placement : Placement := { name, size := region.size, cached := region.cached }
    let placed ← placement.place bus.addressWidth bus.windows bus.regions
    pure { placed with mode := region.mode }

def store (bus : Bus) (name : String) (region : Region) : Bus :=
  match region.kind with
  | .bus => { bus with regions := bus.regions.push name region }
  | .io => { bus with windows := bus.windows.push name region }
  | .linker => { bus with linkerRegions := bus.linkerRegions.push name region }

def declareRegion (name : String) (region : Region) : Call Bus Region := do
  let stored ← .ask fun bus => (bus.settle name region).orDump bus.text
  .update (·.store name stored)
  if region.origin.isNone then .info s!"{name} region allocated {stored.text}"
  else .info s!"{name} {region.kind.label} region added {stored.text}"
  return stored

/-- How an interface is attached, and the event that announces a converter. -/
def adapt (bus : Bus) (name : String) (interface : Interface) : Verdict Attachment :=
  if interface.dataWidth = bus.dataWidth then pure ⟨interface, none⟩
  else do
    .info s!"{name} bus converted from {interface.dataWidth}-bit to {bus.dataWidth}-bit"
    pure ⟨interface, some ⟨interface.dataWidth, bus.dataWidth⟩⟩

/-- The name of a new master; one without a name is numbered. -/
def chooseMaster (bus : Bus) (name : Option String) : Verdict String := do
  let name := name.getD s!"master{bus.masters.length}"
  .require (bus.master? name).isNone (.duplicateMasterName name)
  pure name

def attachMaster (name : Option String) (interface : Interface) : Call Bus String := do
  let name ← .ask fun bus => (bus.chooseMaster name).orDump bus.text
  let attachment ← .ask (·.adapt name interface)
  .update fun bus => { bus with masters := bus.masters ++ [(name, attachment)] }
  .info s!"{name} added as bus master"
  return name

/-- The name of a new slave; one without a name is numbered, and needs a region.
A slave without a region goes by the name of a bus region. -/
def chooseSlave (bus : Bus) (name : Option String) (region : Option Region) : Verdict String := do
  .require (name.isSome || region.isSome) .missingNameOrRegion
  let name := name.getD s!"slave{bus.slaves.length}"
  .require (bus.slave? name).isNone (.duplicateSlaveName name)
  match region with
  | some region => .require region.kind.isDecoded (.undecodedSlaveRegion name region.kind)
  | none => .require (bus.regions.contains name) (.unknownRegion name)
  pure name

def attachSlave (name : Option String) (interface : Interface) (region : Option Region) :
    Call Bus String := do
  let name ← .ask fun bus => (bus.chooseSlave name region).orDump bus.text
  if let some region := region then
    discard <| declareRegion name region
  let attachment ← .ask (·.adapt name interface)
  .update fun bus => { bus with slaves := bus.slaves ++ [(name, attachment)] }
  .info s!"{name} added as bus slave"
  return name

def decoderFor (bus : Bus) (name : String) (region : Region) : Verdict Decoder :=
  (Decoder.ofRegion name region bus.dataWidth bus.addressWidth).orDump bus.text

def decoder (bus : Bus) (name : String) : Verdict Decoder :=
  match bus.regions.get? name with
  | some region => bus.decoderFor name region
  | none => .fail (.unknownRegion name)

def reserve (reservations : List (String × Reservation)) : Call Bus Unit :=
  reservations.forM fun (name, reservation) => do
    discard <| declareRegion name reservation.toRegion

/-- A bus of a supported shape, with its reservations declared. -/
def ofConfig (config : Config) : Verdict Bus := do
  .info "creating new bus handler"
  .require (supportedDataWidths.contains config.dataWidth)
    (.unsupported "bus.data_width" (toString config.dataWidth))
  .require (supportedAddressWidths.contains config.addressWidth)
    (.unsupported "bus.address_width" (toString config.addressWidth))
  let bus : Bus := {
    standard := config.standard
    dataWidth := config.dataWidth
    addressWidth := config.addressWidth
    timeout := config.timeout }
  .info s!"{bus.summary} bus, {bus.gibibytes}GiB address space"
  let bus ← (reserve config.reservedRegions.entries).completed bus
  .info "bus handler created"
  pure bus

end SystemOnChip.Bus
