import SystemOnChip.Text.Layout
import SystemOnChip.Text.Quoted.Table

/-! Quoted text, in which every character can be told from every other: quotes
and backslashes are escaped, and what has no form of its own is written by its
code point. -/
namespace SystemOnChip.Text

namespace Quoted

def within (intervals : List (Nat × Nat)) (code : Nat) : Bool :=
  intervals.any fun (first, last) => first ≤ code && code ≤ last

/-- Whether the character is written as it is. -/
def isPlain (c : Char) : Bool :=
  let code := c.toNat
  if code < 0x7f then 0x20 ≤ code else !(within invisible code || within combining code)

def escape (c : Char) : String :=
  match c with
  | '\x00' => "\\0"
  | '\t' => "\\t"
  | '\n' => "\\n"
  | '\r' => "\\r"
  | '"' => "\\\""
  | '\\' => "\\\\"
  | c => if isPlain c then c.toString else "\\u\x7b" ++ hexDigits 1 c.toNat ++ "\x7d"

end Quoted

def quoted (text : String) : String := "\"" ++ String.join (text.toList.map Quoted.escape) ++ "\""

end SystemOnChip.Text
