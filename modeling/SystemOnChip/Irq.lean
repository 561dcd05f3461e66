import SystemOnChip.Location

/-! Interrupt lines: numbered locations of which a processor has 32 at most. -/
namespace SystemOnChip

/-- Reservations are recorded in the order of their names. -/
structure Irq.Config where
  count : UInt32 := 32
  reserved : NameMap UInt32 := .empty
deriving DecidableEq

structure Irq where
  locations : LocationTable
deriving DecidableEq

namespace Irq

def maxCount : UInt32 := 32

def text (irq : Irq) : String :=
  let summary := s!"IRQ Handler (up to {irq.locations.capacity} Locations)."
  if irq.locations.isEmpty then summary else s!"{summary}\n{irq.locations.text}"

def onLocations {α : Type} (call : Call LocationTable α) : Call Irq α :=
  call.on locations fun locations _ => { locations }

def assign (name : String) (wanted : Option UInt32) (reuse : Bool) : Call Irq UInt32 :=
  onLocations (LocationTable.assign name wanted reuse)

def reserve (reservations : List (String × UInt32)) : Call Irq Unit :=
  reservations.forM fun (name, slot) => do
    discard <| assign name (some slot) false

/-- As many lines as are asked for, with the reservations recorded. -/
def ofConfig (config : Config) : Verdict Irq := do
  .info "creating new IRQ handler"
  .require (config.count ≤ maxCount) (.unsupportedIrqCount config.count)
  .info s!"IRQ handler (up to {config.count} locations)"
  let irq ← (reserve config.reserved.entries).completed
    { locations := { space := "IRQ", capacity := config.count } }
  .info "IRQ handler created"
  pure irq

end Irq

end SystemOnChip
