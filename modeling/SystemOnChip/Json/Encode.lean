import SystemOnChip.Json.Basic
import SystemOnChip.NameMap

/-! Encoding as JSON values. -/
namespace SystemOnChip.Json
variable {α : Type}

def ofWord32 (value : UInt32) : Json := num value.toUInt64

def ofOption (encode : α → Json) : Option α → Json
  | some value => encode value
  | none => null

def ofList (encode : α → Json) (values : List α) : Json := arr (values.map encode)

def ofNameMap (encode : α → Json) (map : NameMap α) : Json :=
  obj (map.entries.map fun (name, value) => (name, encode value))

/-- A pair of a name and a value, as an array. -/
def ofNamed (encode : α → Json) (entry : String × α) : Json := arr [str entry.1, encode entry.2]

end SystemOnChip.Json
