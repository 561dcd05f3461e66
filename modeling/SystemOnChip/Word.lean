/-! Arithmetic on 64-bit address words: sums that saturate, powers of two and
alignment. Each operation is fixed by its value over the natural numbers. -/
namespace SystemOnChip.Word

/-- The sum, or the largest word where the sum does not fit. -/
def saturatingAdd (a b : UInt64) : UInt64 :=
  if a + b < a then UInt64.ofNat (UInt64.size - 1) else a + b

def isPowerOfTwo (n : UInt64) : Bool := n.toNat == 1 <<< n.toNat.log2

/-- The least power of two at or above a positive `n`; zero where it does not
fit a word. -/
def nextPowerOfTwo (n : UInt64) : UInt64 :=
  if isPowerOfTwo n then n else UInt64.ofNat (1 <<< (n.toNat.log2 + 1))

/-- The greatest power of two at or below a positive `n`. -/
def previousPowerOfTwo (n : UInt64) : UInt64 := 1 <<< n.log2

/-- The exponent of the largest power of two dividing `n`, for positive `n`. -/
def trailingZeros (n : Nat) : Nat :=
  if 0 < n ∧ n % 2 = 0 then trailingZeros (n / 2) + 1 else 0
termination_by n

/-- The least multiple of `align` at or above `value`, for `align` a power of
two; none where rounding up leaves the word range. -/
def alignUp? (value align : UInt64) : Option UInt64 :=
  let raised := value + (align - 1)
  if raised < value then none else some (raised - raised % align)

theorem toNat_saturatingAdd (a b : UInt64) :
    (saturatingAdd a b).toNat = min (a.toNat + b.toNat) (UInt64.size - 1) := by
  have ha := a.toNat_lt
  have hb := b.toNat_lt
  unfold saturatingAdd UInt64.size
  split <;> rename_i h <;> rw [UInt64.lt_iff_toNat_lt, UInt64.toNat_add] at h
  · simp only [UInt64.toNat_ofNat']
    omega
  · rw [UInt64.toNat_add]
    omega

/-- Aligning never moves down. -/
theorem le_alignUp? {value align next : UInt64} (h : alignUp? value align = some next) :
    value.toNat ≤ next.toNat := by
  have hv := value.toNat_lt
  have ha := align.toNat_lt
  simp only [alignUp?, Option.ite_none_left_eq_some, Option.some.injEq, UInt64.lt_iff_toNat_lt] at h
  obtain ⟨low, rfl⟩ := h
  rw [UInt64.toNat_add, UInt64.toNat_sub] at low
  rw [UInt64.toNat_sub_of_le _ _ (UInt64.le_iff_toNat_le.mpr (by
    rw [UInt64.toNat_mod]; exact Nat.mod_le _ _)), UInt64.toNat_mod, UInt64.toNat_add,
    UInt64.toNat_sub]
  simp only [UInt64.toNat_one] at low ⊢
  by_cases zero : align.toNat = 0
  · simp only [zero, Nat.mod_zero] at low ⊢
    omega
  · have := Nat.mod_lt ((value.toNat + (2 ^ 64 - 1 + align.toNat) % 2 ^ 64) % 2 ^ 64)
      (Nat.pos_of_ne_zero zero)
    omega

end SystemOnChip.Word
