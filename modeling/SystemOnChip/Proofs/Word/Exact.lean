import SystemOnChip.Proofs.Word

/-! Exact arithmetic on words. An operation is computed over the numbers that words stand for,
and has no result where it is not defined, where a shift is as wide as the word, or where no word
stands for the number: a sum that would wrap is told from one that does not. Rounding to
alignments and to powers of two is computed here step by step in this arithmetic. -/
namespace SystemOnChip

namespace Word

/-- The 64-bit word for a number, if there is one. -/
def fit? (value : Nat) : Option UInt64 :=
  if value < UInt64.size then some (UInt64.ofNat value) else none

/-- The 32-bit word for a number, if there is one. -/
def fit32? (value : Nat) : Option UInt32 :=
  if value < UInt32.size then some (UInt32.ofNat value) else none

def add? (a b : UInt64) : Option UInt64 := fit? (a.toNat + b.toNat)

def sub? (a b : UInt64) : Option UInt64 := if a < b then none else fit? (a.toNat - b.toNat)

def mul? (a b : UInt64) : Option UInt64 := fit? (a.toNat * b.toNat)

def div? (a b : UInt64) : Option UInt64 := if b = 0 then none else fit? (a.toNat / b.toNat)

def mod? (a b : UInt64) : Option UInt64 := if b = 0 then none else fit? (a.toNat % b.toNat)

/-- The word is wider than the shift, and no bit is lost. -/
def shiftLeft? (a : UInt64) (places : UInt32) : Option UInt64 :=
  if places < 64 then fit? (a.toNat * 2 ^ places.toNat) else none

def shiftRight? (a : UInt64) (places : UInt32) : Option UInt64 :=
  if places < 64 then fit? (a.toNat / 2 ^ places.toNat) else none

def add32? (a b : UInt32) : Option UInt32 := fit32? (a.toNat + b.toNat)

def sub32? (a b : UInt32) : Option UInt32 := if a < b then none else fit32? (a.toNat - b.toNat)

/-- The zero bits above the highest one. -/
def leadingZeros (n : UInt64) : UInt32 := if n = 0 then 64 else UInt32.ofNat (63 - n.toNat.log2)

/-- Rounding up by a mask of the bits below the alignment, which has to be a power of two. Where
the sum does not fit, the answer is that there is no such word. -/
def alignUpExactly (value align : UInt64) : Option (Option UInt64) :=
  if isPowerOfTwo align then do
    let mask ← sub? align 1
    return (add? value mask).map (· &&& ~~~mask)
  else none

def nextPowerOfTwoExactly (n : UInt64) : Option UInt64 := fit? (2 ^ Nat.clog 2 n.toNat)

def previousPowerOfTwoExactly (n : UInt64) : Option UInt64 := do
  let highest ← sub32? 63 (leadingZeros n)
  shiftLeft? 1 highest

variable {a b value align n : UInt64} {k : Nat} {places : UInt32}

theorem fit?_eq_some_iff {value : Nat} {word : UInt64} :
    fit? value = some word ↔ word.toNat = value := by
  unfold fit?
  rw [Option.ite_none_right_eq_some, Option.some.injEq]
  constructor
  · rintro ⟨fits, rfl⟩
    exact UInt64.toNat_ofNat_of_lt' fits
  · rintro rfl
    exact ⟨word.toNat_lt_size, UInt64.ofNat_toNat⟩

theorem fit32?_eq_some_iff {value : Nat} {word : UInt32} :
    fit32? value = some word ↔ word.toNat = value := by
  unfold fit32?
  rw [Option.ite_none_right_eq_some, Option.some.injEq]
  constructor
  · rintro ⟨fits, rfl⟩
    exact UInt32.toNat_ofNat_of_lt' fits
  · rintro rfl
    exact ⟨word.toNat_lt_size, UInt32.ofNat_toNat⟩

theorem add?_eq_some (fits : a.toNat + b.toNat < UInt64.size) : add? a b = some (a + b) := by
  rw [add?, fit?_eq_some_iff, UInt64.toNat_add, Nat.mod_eq_of_lt fits]

theorem add?_eq_none (beyond : UInt64.size ≤ a.toNat + b.toNat) : add? a b = none :=
  if_neg (Nat.not_lt.mpr beyond)

theorem sub?_eq_some (below : b ≤ a) : sub? a b = some (a - b) := by
  rw [sub?, if_neg (UInt64.not_lt.mpr below), fit?_eq_some_iff, UInt64.toNat_sub_of_le _ _ below]

theorem mul?_eq_some (fits : a.toNat * b.toNat < UInt64.size) : mul? a b = some (a * b) := by
  rw [mul?, fit?_eq_some_iff, UInt64.toNat_mul, Nat.mod_eq_of_lt fits]

theorem mod?_eq_some (nonzero : b ≠ 0) : mod? a b = some (a % b) := by
  rw [mod?, if_neg nonzero, fit?_eq_some_iff, UInt64.toNat_mod]

theorem shiftLeft?_one (small : places.toNat < 64) :
    shiftLeft? 1 places = some (1 <<< places.toUInt64) := by
  have fits : 2 ^ places.toNat < 2 ^ 64 := Nat.pow_lt_pow_right (by decide) small
  rw [shiftLeft?, if_pos (UInt32.lt_iff_toNat_lt.mpr small), fit?_eq_some_iff,
    UInt64.toNat_shiftLeft, UInt32.toNat_toUInt64, Nat.mod_eq_of_lt small, UInt64.toNat_one,
    Nat.one_shiftLeft, Nat.mod_eq_of_lt fits, Nat.one_mul]

theorem shiftRight?_eq_some (small : places.toNat < 64) :
    shiftRight? a places = some (a >>> places.toUInt64) := by
  rw [shiftRight?, if_pos (UInt32.lt_iff_toNat_lt.mpr small), fit?_eq_some_iff,
    toNat_shiftRight (UInt32.toNat_toUInt64 places) small]

theorem sub32?_eq_some {a b : UInt32} (below : b ≤ a) : sub32? a b = some (a - b) := by
  rw [sub32?, if_neg (UInt32.not_lt.mpr below), fit32?_eq_some_iff,
    UInt32.toNat_sub_of_le _ _ below]

/-- Masking the bits below a power of two takes the remainder off. -/
theorem and_not_pred (power : align.toNat = 2 ^ k) :
    value &&& ~~~(align - 1) = value - value % align := by
  have bound := value.toNat_lt
  have multiple : value.toNat - value.toNat % 2 ^ k = value.toNat >>> k <<< k := by
    rw [Nat.shiftRight_eq_div_pow, Nat.shiftLeft_eq, Nat.div_mul_self_eq_mod_sub_self]
  have low : 2 ^ k - 1 < 2 ^ 64 :=
    Nat.lt_of_le_of_lt (Nat.sub_le _ _) (Nat.pow_lt_pow_right (by decide) (exponent_lt power))
  have mask : UInt64.size - 1 - (2 ^ k - 1) = 2 ^ 64 - (2 ^ k - 1 + 1) := by
    unfold UInt64.size
    omega
  rw [← UInt64.toNat_inj, toNat_sub_mod, UInt64.toNat_and, UInt64.toNat_not, toNat_pred power,
    power, multiple, mask]
  -- Bits below `k` are cleared on both sides; above, the mask is set as far as words go.
  refine Nat.eq_of_testBit_eq fun i => ?_
  rw [Nat.testBit_and, Nat.testBit_two_pow_sub_succ low, Nat.testBit_two_pow_sub_one,
    Nat.testBit_shiftLeft, Nat.testBit_shiftRight]
  rcases Nat.lt_or_ge i k with below | above
  · simp [below]
  · rw [Nat.add_sub_cancel' above]
    rcases Nat.lt_or_ge i 64 with inner | outer
    · simp [above, inner]
    · have none : value.toNat.testBit i = false :=
        Nat.testBit_lt_two_pow (Nat.lt_of_lt_of_le bound (Nat.pow_le_pow_right (by decide) outer))
      simp [none]

/-- Rounding up by a mask is rounding up to a multiple. -/
theorem alignUpExactly_eq (power : align.toNat = 2 ^ k) :
    alignUpExactly value align = some (alignUp? value align) := by
  have mask : sub? align 1 = some (align - 1) := sub?_eq_some (one_le_of_power power)
  simp only [alignUpExactly, if_pos (isPowerOfTwo_iff.mpr ⟨k, power⟩), mask, Option.bind_eq_bind,
    Option.bind_some, Option.pure_def, Option.some.injEq]
  rcases Nat.lt_or_ge (value.toNat + (align - 1).toNat) UInt64.size with fits | beyond
  · have stays : ¬ value + (align - 1) < value := by
      rw [UInt64.lt_iff_toNat_lt, UInt64.toNat_add, Nat.mod_eq_of_lt fits]
      omega
    rw [add?_eq_some fits, Option.map_some, and_not_pred power, alignUp?]
    exact (if_neg stays).symm
  · have below := (align - 1).toNat_lt_size
    have wraps : value + (align - 1) < value := by
      rw [UInt64.lt_iff_toNat_lt, UInt64.toNat_add]
      unfold UInt64.size at beyond below
      omega
    rw [add?_eq_none beyond, Option.map_none, alignUp?]
    exact (if_pos wraps).symm

example : alignUpExactly 0xfffffffffffff001 0x1000 = some none := by decide

theorem le_of_alignUpExactly {next : UInt64}
    (raised : alignUpExactly value align = some (some next)) : value.toNat ≤ next.toNat := by
  by_cases power : isPowerOfTwo align
  · obtain ⟨k, power⟩ := isPowerOfTwo_iff.mp power
    rw [alignUpExactly_eq power, Option.some.injEq] at raised
    exact le_alignUp? raised
  · rw [alignUpExactly, if_neg power] at raised
    contradiction

theorem nextPowerOfTwoExactly_eq (positive : 0 < n.toNat) (small : n.toNat ≤ 2 ^ 63) :
    nextPowerOfTwoExactly n = some (nextPowerOfTwo n) := by
  rw [nextPowerOfTwoExactly, fit?_eq_some_iff, toNat_nextPowerOfTwo positive small]

theorem previousPowerOfTwoExactly_eq (nonzero : n ≠ 0) :
    previousPowerOfTwoExactly n = some (previousPowerOfTwo n) := by
  have some : n.toNat ≠ 0 := fun zero => nonzero (UInt64.toNat_inj.mp zero)
  have small : n.toNat.log2 < 64 := (Nat.log2_lt some).mpr n.toNat_lt
  have zeros : (leadingZeros n).toNat = 63 - n.toNat.log2 := by
    rw [leadingZeros, if_neg nonzero, UInt32.toNat_ofNat_of_lt']
    exact Nat.lt_of_le_of_lt (Nat.sub_le _ _) (by decide)
  have below : leadingZeros n ≤ 63 := by
    rw [UInt32.le_iff_toNat_le, zeros]
    exact Nat.sub_le _ _
  have highest : (63 - leadingZeros n).toNat = n.toNat.log2 := by
    rw [UInt32.toNat_sub_of_le _ _ below, zeros]
    change 63 - (63 - n.toNat.log2) = _
    omega
  have same : (63 - leadingZeros n).toUInt64 = n.log2 := by
    rw [← UInt64.toNat_inj, UInt32.toNat_toUInt64, highest]
    rfl
  rw [previousPowerOfTwoExactly, sub32?_eq_some below]
  change shiftLeft? 1 _ = _
  rw [shiftLeft?_one (by omega), same, previousPowerOfTwo]

end Word

end SystemOnChip
