import SystemOnChip.Soc.Basic

/-! The address map of a finished system. -/
namespace SystemOnChip

/-- The interconnect between all masters and all slaves of the bus. Slaves are
in the order of their attachment. -/
structure BusInterconnect where
  masters : List String
  slaves : List (String × Decoder)
  timeoutCycles : Option UInt64
deriving DecidableEq

/-- The slave that a byte address reaches: the first one that claims it. -/
def BusInterconnect.route (interconnect : BusInterconnect) (address : UInt64) : Option String :=
  (interconnect.slaves.find? fun slave => slave.2.claims address).map (·.1)

/-- The interconnect between the masters and the pages of the register bus, the
latter by location. -/
structure CsrInterconnect where
  masters : List String
  slaves : List String
deriving DecidableEq

/-- What a page of registers belongs to: a bank of its own name, or a memory of
a component. -/
inductive CsrOwner where
  | bank (name : String)
  | memory (component memory : String)
deriving DecidableEq

structure CsrPage where
  origin : UInt64
  busWord : UInt32
  owner : CsrOwner
deriving DecidableEq

/-- An event source connected to an interrupt line. -/
structure IrqWire where
  line : UInt32
  source : String
deriving DecidableEq

/-- A bus without masters or without slaves has no interconnect, and neither has
a register bus without masters. Pages and wires are by number. -/
structure AddressMap where
  clockFrequency : UInt64
  bus : Bus
  csr : Csr
  csrPages : List (String × CsrPage)
  irq : Irq
  constants : ConstantTable
  busInterconnect : Option BusInterconnect
  busErrorSink : Option String
  resetSource : Option String
  csrInterconnect : Option CsrInterconnect
  irqWires : List IrqWire
deriving DecidableEq

namespace AddressMap

def text (map : AddressMap) : String :=
  let pages := map.csrPages.map fun (name, page) =>
    s!"\n{Text.column 20 name}: Origin: {Text.address page.origin}"
  let wires := map.irqWires.map fun wire => s!"\n- {Text.column 20 wire.source}: {wire.line}"
  s!"{map.bus.text}\n{map.csr.text}\n{map.irq.text}\n" ++
    (if pages.isEmpty then "" else s!"CSR Regions: ({pages.length}){String.join pages}\n") ++
    (if wires.isEmpty then "" else s!"IRQ Wiring: ({wires.length}){String.join wires}\n") ++
    map.constants.text

end AddressMap

end SystemOnChip
