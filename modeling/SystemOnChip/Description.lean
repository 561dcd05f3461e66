import SystemOnChip.Component.Json
import SystemOnChip.Soc.Json

/-! Descriptions of systems: a configuration, and the components that are added
in the order in which they are listed. -/
namespace SystemOnChip

structure Description where
  config : Soc.Config := {}
  components : List Component := []

namespace Description

/-- No other field may stand beside the two. -/
def ofJson : Json → Decoded Description :=
  (Description.mk <$> Record.withDefault "config" Soc.Config.ofJson {}
    <*> .withDefault "components" (Json.items Component.ofJson) []).decode .strict

def declarations (description : Description) : List Soc.Declaration :=
  description.components.flatMap Component.declarations

/-- Performs declarations in order, up to the first one that fails. -/
def declareAll (declarations : List Soc.Declaration) : Call Soc Unit :=
  declarations.forM fun declaration => do
    discard <| declaration.perform

def compose (description : Description) : Verdict Soc := do
  let soc ← Soc.ofConfig description.config
  (declareAll description.declarations).completed soc

end Description

end SystemOnChip
