import SystemOnChip.Json.Basic

/-! The words of JSON text: three names, and numbers. -/
namespace SystemOnChip.Json

namespace Number

def digitValue (digit : Char) : Nat := digit.toNat - '0'.toNat

def ofDigits (digits : List Char) : Nat :=
  digits.foldl (fun value digit => 10 * value + digitValue digit) 0

/-- Appends digits to a number as long as it fits 64 bits, and counts them. -/
def append (number : Nat) : List Char → Nat × Nat
  | [] => (number, 0)
  | digit :: rest =>
    let longer := 10 * number + digitValue digit
    if longer < UInt64.size then
      let (longest, count) := append longer rest
      (longest, count + 1)
    else (number, 0)

/-- The nearest number of 53 significant bits, and the even one of two. -/
def toDouble (number : Nat) : Nat :=
  let unit := 1 <<< (number.log2 - 52)
  let kept := number / unit
  let dropped := 2 * (number % unit)
  if unit < dropped ∨ unit = dropped ∧ kept % 2 = 1 then (kept + 1) * unit else kept * unit

/-- The least number that double precision rounds to infinity. -/
def doubleLimit : Nat := (1 <<< 1024) - (1 <<< 970)

def maxPower : Nat := 308

/-- Whether a significand times a power of ten is beyond double precision. Both
factors are rounded before they are multiplied; a division never leads beyond. -/
def exceedsDouble (significand : Nat) (exponent : Int) : Bool :=
  significand != 0 && 0 ≤ exponent &&
    (maxPower < exponent ||
      doubleLimit ≤ toDouble significand * toDouble (Nat.pow 10 exponent.toNat))

/-- Whether a number is beyond double precision. Of its digits only those count
that fit 64 bits; the whole ones behind them still shift the point. -/
def isBeyondDouble (whole fraction : List Char) (exponent : Int) : Bool :=
  let (significand, wholeCount) := append 0 whole
  let (significand, fractionCount) := append significand fraction
  exceedsDouble significand (exponent + (whole.length - wholeCount) - fractionCount)

def isWhole : List Char → Bool
  | [] => false
  | ['0'] => true
  | '0' :: _ => false
  | _ => true

def magnitude? (digits : List Char) : Option Int :=
  if digits.isEmpty || !digits.all Char.isDigit then none else some (ofDigits digits)

/-- The exponent after its letter. -/
def exponent? : List Char → Option Int
  | '-' :: digits => (magnitude? digits).map fun value => -value
  | '+' :: digits => magnitude? digits
  | digits => magnitude? digits

/-- A number without its sign: whole digits, and a fraction or an exponent. -/
def unsigned? (chars : List Char) (negative : Bool) : Option Json :=
  let (whole, rest) := chars.span Char.isDigit
  let (fraction, rest, marked) := match rest with
    | '.' :: rest => let (fraction, rest) := rest.span Char.isDigit; (fraction, rest, true)
    | rest => ([], rest, false)
  if !isWhole whole || (marked && fraction.isEmpty) then none
  else
    let exponent := match rest with
      | [] => some none
      | c :: rest => if c = 'e' ∨ c = 'E' then (exponent? rest).map some else none
    exponent.map fun exponent =>
      let value := ofDigits whole
      if !negative && !marked && exponent.isNone && value < UInt64.size then
        .num (UInt64.ofNat value)
      else if isBeyondDouble whole fraction (exponent.getD 0) then .unreadable
      else .real

end Number

def wordValue? (chars : List Char) : Option Json :=
  match chars with
  | ['n', 'u', 'l', 'l'] => some .null
  | ['t', 'r', 'u', 'e'] => some (.bool true)
  | ['f', 'a', 'l', 's', 'e'] => some (.bool false)
  | '-' :: chars => Number.unsigned? chars true
  | chars => Number.unsigned? chars false

end SystemOnChip.Json
