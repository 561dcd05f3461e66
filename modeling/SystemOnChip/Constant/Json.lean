import SystemOnChip.Constant
import SystemOnChip.Json.Decode
import SystemOnChip.Json.Encode

/-! Constants as JSON: numbers, strings, and null for a flag. -/
namespace SystemOnChip

namespace Constant

def toJson : Constant → Json
  | int value => .num value
  | str value => .str value
  | flag => .null

def ofJson : Json → Decoded Constant
  | .num value => .ok (int value)
  | .str value => .ok (str value)
  | .null => .ok flag
  | _ => .error (.unexpected "constant")

end Constant

def ConstantTable.toJson (table : ConstantTable) : Json :=
  Json.ofNameMap Constant.toJson table.entries

end SystemOnChip
