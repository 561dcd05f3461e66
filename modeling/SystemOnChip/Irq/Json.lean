import SystemOnChip.Irq
import SystemOnChip.Json.Decode
import SystemOnChip.Json.Encode

/-! The configuration of interrupts as JSON. -/
namespace SystemOnChip.Irq.Config

def toJson (config : Config) : Json := .obj [
  ("n_irqs", Json.ofWord32 config.count),
  ("reserved_irqs", Json.ofNameMap Json.ofWord32 config.reserved)]

def record : Record Config :=
  let absent : Config := {}
  Config.mk <$> .withDefault "n_irqs" Json.word32 absent.count
    <*> .withDefault "reserved_irqs" (Json.nameMap Json.word32) absent.reserved

def ofJson : Json → Decoded Config := record.decode .lenient

end SystemOnChip.Irq.Config
