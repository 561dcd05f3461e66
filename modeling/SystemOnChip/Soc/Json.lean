import SystemOnChip.Bus.Json
import SystemOnChip.Csr.Json
import SystemOnChip.Irq.Json
import SystemOnChip.Soc.Basic

/-! The configuration of a system as JSON. -/
namespace SystemOnChip.Soc.Config

def toJson (config : Config) : Json := .obj [
  ("sys_clk_freq", .num config.clockFrequency),
  ("bus", config.bus.toJson),
  ("csr", config.csr.toJson),
  ("irq", config.irq.toJson)]

def record : Record Config :=
  let absent : Config := {}
  Config.mk <$> .withDefault "sys_clk_freq" Json.word64 absent.clockFrequency
    <*> .withDefault "bus" Bus.Config.ofJson absent.bus
    <*> .withDefault "csr" Csr.Config.ofJson absent.csr
    <*> .withDefault "irq" Irq.Config.ofJson absent.irq

def ofJson : Json → Decoded Config := record.decode .lenient

end SystemOnChip.Soc.Config
