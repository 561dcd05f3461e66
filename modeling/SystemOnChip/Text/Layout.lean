/-! Fixed-width text: hexadecimal numbers and padded columns. -/
namespace SystemOnChip.Text

/-- Lower-case hexadecimal digits, with leading zeros up to `width` digits. -/
def hexDigits (width n : Nat) : String :=
  let digits := String.ofList (Nat.toDigits 16 n)
  "".pushn '0' (width - digits.length) ++ digits

/-- A word as `0x` and as few digits as it needs. -/
def hex (n : UInt64) : String := "0x" ++ hexDigits 1 n.toNat

/-- A word as `0x` and at least eight digits. -/
def address (n : UInt64) : String := "0x" ++ hexDigits 8 n.toNat

/-- The text followed by blanks up to `width` characters. -/
def column (width : Nat) (text : String) : String := text.pushn ' ' (width - text.length)

end SystemOnChip.Text
