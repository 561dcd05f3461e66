import SystemOnChip.Call
import SystemOnChip.NameMap
import SystemOnChip.Text.Quoted
import SystemOnChip.Text.Upper

/-! The constants handed to software: a flat table whose names are upper-cased
and defined once. -/
namespace SystemOnChip

/-- A flag is defined without a value. -/
inductive Constant where
  | int (value : UInt64)
  | str (value : String)
  | flag
deriving DecidableEq

def Constant.literal : Constant → String
  | int value => toString value
  | str value => Text.quoted value
  | flag => ""

structure ConstantTable where
  entries : NameMap Constant := .empty
deriving DecidableEq

namespace ConstantTable

def size (table : ConstantTable) : Nat := table.entries.size

def isEmpty (table : ConstantTable) : Bool := table.entries.isEmpty

/-- Names are looked up as they are stored, in capitals. -/
def get? (table : ConstantTable) (name : String) : Option Constant :=
  table.entries.get? (Text.upper name)

/-- Defines a constant, unless its name in capitals is defined already. -/
def define (name : String) (value : Constant) : Call ConstantTable Unit := do
  let key := Text.upper name
  .ask fun table =>
    if table.entries.contains key then
      .failWith s!"{key} constant already declared" (.duplicateConstant key)
    else pure ()
  .update fun table => ⟨table.entries.insert key value⟩

/-- The name and value under which a configuration setting is defined: a text
value becomes part of the name. -/
def setting (name : String) : Constant → String × Constant
  | .str value => (s!"CONFIG_{name}_{value}", .flag)
  | value => (s!"CONFIG_{name}", value)

def configure (name : String) (value : Constant) : Call ConstantTable Unit :=
  let (name, value) := setting name value
  define name value

def text (table : ConstantTable) : String :=
  let rows := table.entries.entries.map fun (name, value) =>
    match value with
    | .flag => s!"\n- {name}"
    | value => s!"\n- {Text.column 30 name}: {value.literal}"
  s!"Constants: ({table.size})" ++ String.join rows

end ConstantTable

end SystemOnChip
