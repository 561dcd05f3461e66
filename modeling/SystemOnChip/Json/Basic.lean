/-! JSON values. Numbers are words where the text is a whole number that fits 64
bits; of any other number only its being one is kept. Two further values stand
for text that is not a value, and are never written. -/
namespace SystemOnChip

/-- An unreadable value can be passed over, but not read: its text is a string
with half a surrogate pair, a number beyond double precision, or nested too
deeply. At a broken value the text cannot be followed any further. -/
inductive Json where
  | null
  | bool (value : Bool)
  | num (value : UInt64)
  | real
  | str (value : String)
  | arr (items : List Json)
  | obj (members : List (String × Json))
  | unreadable
  | broken
deriving Inhabited

namespace Json

/-- The most containers that can enclose a value that is read. -/
def maxDepth : Nat := 127

mutual

/-- Whether all of the value can be read. -/
def isReadable : Json → Bool
  | arr items => areReadable items
  | obj members => membersReadable members
  | unreadable | broken => false
  | null | bool _ | num _ | real | str _ => true

def areReadable : List Json → Bool
  | [] => true
  | item :: rest => item.isReadable && areReadable rest

def membersReadable : List (String × Json) → Bool
  | [] => true
  | (_, value) :: rest => value.isReadable && membersReadable rest

end

end Json

end SystemOnChip
