import SystemOnChip.Bus.Declare
import SystemOnChip.Csr
import SystemOnChip.Irq
import SystemOnChip.Peripheral

/-! A system under composition. -/
namespace SystemOnChip

/-- The clock frequency is in hertz. -/
structure Soc.Config where
  clockFrequency : UInt64 := 100000000
  bus : Bus.Config := {}
  csr : Csr.Config := {}
  irq : Irq.Config := {}
deriving DecidableEq

/-- The controller is the last one added; the reset source is the controller
that was there when the processor came. -/
structure Soc where
  clockFrequency : UInt64
  bus : Bus
  csr : Csr
  irq : Irq
  constants : ConstantTable := {}
  peripherals : NameMap Peripheral := .empty
  cpu : Option Cpu := none
  controller : Option String := none
  resetSource : Option String := none
deriving DecidableEq

namespace Soc
variable {α : Type}

/-- The bus region and slave through which registers are reached. -/
def csrRegionName : String := "csr"

def onBus (call : Call Bus α) : Call Soc α := call.on bus fun bus soc => { soc with bus }

def onCsr (call : Call Csr α) : Call Soc α := call.on csr fun csr soc => { soc with csr }

def onIrq (call : Call Irq α) : Call Soc α := call.on irq fun irq soc => { soc with irq }

def onConstants (call : Call ConstantTable α) : Call Soc α :=
  call.on constants fun constants soc => { soc with constants }

def peripheral? (soc : Soc) (name : String) : Option Peripheral := soc.peripherals.get? name

/-- A system of a supported shape, with its clock frequency among the constants. -/
def ofConfig (config : Config) : Verdict Soc := do
  .info "creating new SoC"
  let bus ← Bus.ofConfig config.bus
  let csr ← Csr.ofConfig config.csr
  let irq ← Irq.ofConfig config.irq
  .info s!"initial SoC:\n{bus.text}\n{csr.text}\n{irq.text}"
  (onConstants (ConstantTable.configure "CLOCK_FREQUENCY" (.int config.clockFrequency))).completed
    { clockFrequency := config.clockFrequency, bus, csr, irq }

end Soc

end SystemOnChip
