import SystemOnChip.Text.Upper.Table

/-! Full upper-casing: every character is replaced by its upper-case form, which
may be several characters long; a character without one stays. -/
namespace SystemOnChip.Text

namespace Upper

def Run.covers (run : Run) (code : Nat) : Bool :=
  run.first ≤ code && code ≤ run.last && (code - run.first) % run.step == 0

/-- The upper-case form of one character. -/
def ofChar (c : Char) : List Char :=
  match expansions.lookup c.toNat with
  | some codes => codes.map Char.ofNat
  | none =>
    match runs.find? (·.covers c.toNat) with
    | some run => [Char.ofNat (c.toNat + run.shift).toNat]
    | none => [c]

end Upper

def upper (text : String) : String := String.ofList (text.toList.flatMap Upper.ofChar)

end SystemOnChip.Text
