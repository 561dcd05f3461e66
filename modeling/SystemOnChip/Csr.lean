import SystemOnChip.Location

/-! The bus of control and status registers: pages of registers at numbered
locations, and the masters of the bus. -/
namespace SystemOnChip

/-- The alignment is that of a register, in bits; the paging is the size of a
page, in bytes. Reservations are recorded in the order of their names. -/
structure Csr.Config where
  dataWidth : UInt32 := 32
  addressWidth : UInt32 := 14
  alignment : UInt32 := 32
  paging : UInt32 := 0x800
  reserved : NameMap UInt32 := .empty
deriving DecidableEq

structure Csr.Interface where
  dataWidth : UInt32
deriving DecidableEq

structure Csr where
  dataWidth : UInt32
  addressWidth : UInt32
  alignment : UInt32
  paging : UInt32
  locations : LocationTable
  masters : List (String × Csr.Interface) := []
deriving DecidableEq

namespace Csr

def supportedDataWidths : List UInt32 := [8, 32]

def supportedAddressWidths : List UInt32 := [14, 15]

def supportedAlignments : List UInt32 := [32, 64]

def supportedPagings : List UInt32 := [0x800]

/-- Register addresses count words of four bytes. -/
def capacityOf (addressWidth paging : UInt32) : UInt32 :=
  ((4 <<< addressWidth.toUInt64) / paging.toUInt64 : UInt64).toUInt32

def kibibytes (csr : Csr) : UInt64 := (1 <<< csr.addressWidth.toUInt64) / 1024

def summary (csr : Csr) : String :=
  s!"{csr.dataWidth}-bit CSR Bus, {csr.kibibytes}KiB Address Space, {csr.paging}B Paging " ++
    s!"(Up to {csr.locations.capacity} Locations)."

def text (csr : Csr) : String :=
  if csr.locations.isEmpty then csr.summary else s!"{csr.summary}\n{csr.locations.text}"

def onLocations {α : Type} (call : Call LocationTable α) : Call Csr α :=
  call.on locations fun locations csr => { csr with locations }

def assign (name : String) (wanted : Option UInt32) (reuse : Bool) : Call Csr UInt32 :=
  onLocations (LocationTable.assign name wanted reuse)

/-- The name of the location of a component's registers, or of its memory. -/
def locationName (component : String) (memory : Option String) : String :=
  match memory with
  | some memory => s!"{component}_{memory}"
  | none => component

/-- The location of a component's registers, or of its memory. -/
def locate (csr : Csr) (component : String) (memory : Option String) : Verdict UInt32 :=
  let name := locationName component memory
  match csr.locations.get? name with
  | some slot => pure slot
  | none => (Verdict.fail (.undefinedLocation "CSR" name)).orDump csr.locations.text

/-- The name of a new master, which must have the width of the bus; one without
a name is numbered. -/
def chooseMaster (csr : Csr) (name : Option String) (interface : Interface) : Verdict String := do
  let name := name.getD s!"master{csr.masters.length}"
  .require (csr.masters.lookup name).isNone (.duplicateMasterName name)
  .require (interface.dataWidth == csr.dataWidth)
    (.dataWidthMismatch name interface.dataWidth csr.dataWidth)
  pure name

/-- Attaches a master and answers its name. -/
def attachMaster (name : Option String) (interface : Interface) : Call Csr String := do
  let name ← .ask fun csr => (csr.chooseMaster name interface).orDump csr.locations.text
  .update fun csr => { csr with masters := csr.masters ++ [(name, interface)] }
  .info s!"{name} added as CSR master"
  return name

def reserve (reservations : List (String × UInt32)) : Call Csr Unit :=
  reservations.forM fun (name, slot) => do
    discard <| assign name (some slot) false

/-- A register bus of a supported shape, with its reservations recorded. A
register is no wider than its alignment. -/
def ofConfig (config : Config) : Verdict Csr := do
  .info "creating new CSR handler"
  .require (supportedDataWidths.contains config.dataWidth)
    (.unsupported "csr.data_width" (toString config.dataWidth))
  .require (supportedAddressWidths.contains config.addressWidth)
    (.unsupported "csr.address_width" (toString config.addressWidth))
  .require (supportedAlignments.contains config.alignment && config.dataWidth ≤ config.alignment)
    (.unsupported "csr.alignment" (toString config.alignment))
  .require (supportedPagings.contains config.paging)
    (.unsupported "csr.paging" (toString config.paging))
  let csr : Csr := {
    dataWidth := config.dataWidth
    addressWidth := config.addressWidth
    alignment := config.alignment
    paging := config.paging
    locations := { space := "CSR", capacity := capacityOf config.addressWidth config.paging } }
  .info csr.summary
  let csr ← (reserve config.reserved.entries).completed csr
  .info "CSR handler created"
  pure csr

end Csr

end SystemOnChip
