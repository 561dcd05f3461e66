import SystemOnChip.Json.Basic
import SystemOnChip.Text.Layout

/-! Writing JSON values: on one line, or with a line for each member. -/
namespace SystemOnChip.Json

def escape (c : Char) : String :=
  match c with
  | '"' => "\\\""
  | '\\' => "\\\\"
  | '\x08' => "\\b"
  | '\x0c' => "\\f"
  | '\n' => "\\n"
  | '\r' => "\\r"
  | '\t' => "\\t"
  | c => if c < ' ' then "\\u" ++ Text.hexDigits 4 c.toNat else c.toString

def quote (text : String) : String := "\"" ++ String.join (text.toList.map escape) ++ "\""

/-- What surrounds the members of a container and stands between them. -/
structure Style where
  afterColon : String
  lineBreak : Nat → String

namespace Style

def oneLine : Style := ⟨"", fun _ => ""⟩

/-- Two blanks for each level. -/
def indented : Style := ⟨" ", fun level => "\n".pushn ' ' (2 * level)⟩

/-- A container around its members; an empty one stays on its line. -/
def enclose (style : Style) (level : Nat) (first last : String) (members : List String) : String :=
  if members.isEmpty then first ++ last
  else
    let separator := "," ++ style.lineBreak (level + 1)
    first ++ style.lineBreak (level + 1) ++ separator.intercalate members ++
      style.lineBreak level ++ last

end Style

mutual

/-- What is no value is written as null. -/
def write (style : Style) (level : Nat) : Json → String
  | null | real | unreadable | broken => "null"
  | bool value => toString value
  | num value => toString value
  | str value => quote value
  | arr items => style.enclose level "[" "]" (writeItems style (level + 1) items)
  | obj members => style.enclose level "\x7b" "\x7d" (writeMembers style (level + 1) members)

def writeItems (style : Style) (level : Nat) : List Json → List String
  | [] => []
  | item :: rest => write style level item :: writeItems style level rest

def writeMembers (style : Style) (level : Nat) : List (String × Json) → List String
  | [] => []
  | (name, value) :: rest =>
    (quote name ++ ":" ++ style.afterColon ++ write style level value) ::
      writeMembers style level rest

end

def compact (json : Json) : String := write .oneLine 0 json

def pretty (json : Json) : String := write .indented 0 json

end SystemOnChip.Json
