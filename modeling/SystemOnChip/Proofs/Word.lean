import Mathlib.Algebra.Group.Nat.Defs
import Mathlib.Data.Nat.Log
import Mathlib.Order.Bounds.Basic
import Mathlib.Order.Nat
import SystemOnChip.Word

/-! Powers of two among 64-bit words. Alignment tests, rounding and shifts are
read as divisibility, multiples and division over the natural numbers. -/
namespace SystemOnChip.Word

theorem isPowerOfTwo_iff {n : UInt64} : isPowerOfTwo n = true ↔ ∃ k, n.toNat = 2 ^ k := by
  simp only [isPowerOfTwo, beq_iff_eq, Nat.shiftLeft_eq, Nat.one_mul]
  constructor
  · intro power
    exact ⟨_, power⟩
  · rintro ⟨k, power⟩
    rw [power, Nat.log2_two_pow]

theorem exponent_lt {n : UInt64} {k : Nat} (power : n.toNat = 2 ^ k) : k < 64 := by
  have bound := n.toNat_lt
  rw [power] at bound
  exact (Nat.pow_lt_pow_iff_right (by decide)).mp bound

theorem one_le_of_power {n : UInt64} {k : Nat} (power : n.toNat = 2 ^ k) : 1 ≤ n := by
  rw [UInt64.le_iff_toNat_le, power]
  exact Nat.one_le_two_pow

theorem toNat_max (a b : UInt64) : (max a b).toNat = max a.toNat b.toNat := by
  change (if a ≤ b then b else a).toNat = if a.toNat ≤ b.toNat then b.toNat else a.toNat
  simp only [UInt64.le_iff_toNat_le]
  split <;> rfl

theorem toNat_min (a b : UInt64) : (min a b).toNat = min a.toNat b.toNat := by
  change (if a ≤ b then a else b).toNat = if a.toNat ≤ b.toNat then a.toNat else b.toNat
  simp only [UInt64.le_iff_toNat_le]
  split <;> rfl

theorem toNat_shiftRight {a shift : UInt64} {k : Nat} (same : shift.toNat = k) (small : k < 64) :
    (a >>> shift).toNat = a.toNat / 2 ^ k := by
  rw [UInt64.toNat_shiftRight, same, Nat.mod_eq_of_lt small, Nat.shiftRight_eq_div_pow]

theorem mod_eq_zero_iff {a b : UInt64} : a % b = 0 ↔ b.toNat ∣ a.toNat := by
  rw [← UInt64.toNat_inj, UInt64.toNat_mod, UInt64.toNat_zero, Nat.dvd_iff_mod_eq_zero]

theorem toNat_pred {n : UInt64} {k : Nat} (power : n.toNat = 2 ^ k) :
    (n - 1).toNat = 2 ^ k - 1 := by
  rw [UInt64.toNat_sub_of_le _ _ (one_le_of_power power), power, UInt64.toNat_one]

/-- The quotients of addresses by a block size tell the addresses of an aligned block. -/
theorem div_eq_iff_of_dvd {size origin address : Nat} (positive : 0 < size)
    (aligned : size ∣ origin) :
    address / size = origin / size ↔ origin ≤ address ∧ address < origin + size := by
  obtain ⟨block, rfl⟩ := aligned
  rw [Nat.mul_div_cancel_left _ positive, Nat.div_eq_iff positive, Nat.mul_comm block]
  omega

/-- The bits below a power of two vanish exactly in its multiples. -/
theorem and_pred_eq_zero_iff {a n : UInt64} {k : Nat} (power : n.toNat = 2 ^ k) :
    a &&& (n - 1) = 0 ↔ n.toNat ∣ a.toNat := by
  rw [← UInt64.toNat_inj, UInt64.toNat_and, toNat_pred power, Nat.and_two_pow_sub_one_eq_mod,
    UInt64.toNat_zero, power, Nat.dvd_iff_mod_eq_zero]

theorem toNat_sub_mod (a b : UInt64) : (a - a % b).toNat = a.toNat - a.toNat % b.toNat := by
  rw [UInt64.toNat_sub_of_le, UInt64.toNat_mod]
  rw [UInt64.le_iff_toNat_le, UInt64.toNat_mod]
  exact Nat.mod_le _ _

theorem dvd_alignUp? {value align next : UInt64} (h : alignUp? value align = some next) :
    align.toNat ∣ next.toNat := by
  simp only [alignUp?, Option.ite_none_left_eq_some, Option.some.injEq] at h
  obtain ⟨-, rfl⟩ := h
  rw [toNat_sub_mod]
  exact Nat.dvd_sub_mod _

/-- Rounding up passes over no multiple of the alignment, and fails only if none
is left in the word range. -/
theorem alignUp?_le_of_dvd {value align : UInt64} {k multiple : Nat}
    (power : align.toNat = 2 ^ k) (divides : align.toNat ∣ multiple)
    (above : value.toNat ≤ multiple) (fits : multiple < UInt64.size) :
    ∃ next, alignUp? value align = some next ∧ next.toNat ≤ multiple := by
  have positive : 0 < 2 ^ k := Nat.two_pow_pos k
  have word : 2 ^ k ∣ UInt64.size := Nat.pow_dvd_pow 2 (Nat.le_of_lt (exponent_lt power))
  rw [power] at divides
  obtain ⟨blocks, rfl⟩ := divides
  -- the word range ends at a multiple too, so that one alignment more still fits
  have room : 2 ^ k * blocks + 2 ^ k ≤ UInt64.size := by
    obtain ⟨range, same⟩ := word
    rw [same] at fits ⊢
    rw [← Nat.mul_succ]
    exact Nat.mul_le_mul_left _ (Nat.lt_of_mul_lt_mul_left fits)
  have raised : (value + (align - 1)).toNat = value.toNat + (2 ^ k - 1) := by
    rw [UInt64.toNat_add, toNat_pred power, Nat.mod_eq_of_lt]
    change _ < UInt64.size
    omega
  have stays : ¬ value + (align - 1) < value := by
    rw [UInt64.lt_iff_toNat_lt, raised]
    omega
  refine ⟨_, if_neg stays, ?_⟩
  have below : (value.toNat + (2 ^ k - 1)) / 2 ^ k ≤ blocks := by
    rw [← Nat.lt_succ_iff, Nat.div_lt_iff_lt_mul positive, Nat.succ_mul, Nat.mul_comm blocks]
    omega
  have bounded := Nat.mul_le_mul_left (2 ^ k) below
  have split := Nat.div_add_mod (value.toNat + (2 ^ k - 1)) (2 ^ k)
  rw [toNat_sub_mod, raised, power]
  omega

/-- The multiples of an alignment at or above a value, in the word range or beyond it. -/
def multiplesFrom (value align : Nat) : Set Nat := {multiple | align ∣ multiple ∧ value ≤ multiple}

theorem exists_isLeast_multiplesFrom (value : Nat) {align : Nat} (positive : 0 < align) :
    ∃ least, IsLeast (multiplesFrom value align) least := by
  have some : ∃ multiple, align ∣ multiple ∧ value ≤ multiple :=
    ⟨align * value, Nat.dvd_mul_right _ _, Nat.le_mul_of_pos_left _ positive⟩
  exact ⟨Nat.find some, Nat.isLeast_find some⟩

/-- Rounding up answers the least multiple at or above a value. -/
theorem alignUp?_eq_some_iff {value align next : UInt64} {k : Nat} (power : align.toNat = 2 ^ k) :
    alignUp? value align = some next ↔
      IsLeast (multiplesFrom value.toNat align.toNat) next.toNat := by
  constructor
  · intro found
    refine ⟨⟨dvd_alignUp? found, le_alignUp? found⟩, fun multiple ⟨divides, above⟩ => ?_⟩
    rcases Nat.lt_or_ge multiple UInt64.size with fits | beyond
    · obtain ⟨again, same, below⟩ := alignUp?_le_of_dvd power divides above fits
      cases found.symm.trans same
      exact below
    · exact Nat.le_of_lt (Nat.lt_of_lt_of_le next.toNat_lt beyond)
  · intro least
    obtain ⟨divides, above⟩ := least.1
    obtain ⟨answer, found, below⟩ := alignUp?_le_of_dvd power divides above next.toNat_lt
    have above := least.2 ⟨dvd_alignUp? found, le_alignUp? found⟩
    rw [found, UInt64.toNat_inj.mp (Nat.le_antisymm below above)]

/-- Rounding up answers nothing just where the least multiple does not fit a word. -/
theorem alignUp?_eq_none_iff {value align : UInt64} {k : Nat} (power : align.toNat = 2 ^ k) :
    alignUp? value align = none ↔
      ∃ least, IsLeast (multiplesFrom value.toNat align.toNat) least ∧ UInt64.size ≤ least := by
  constructor
  · intro failed
    have positive : 0 < align.toNat := power ▸ Nat.two_pow_pos k
    obtain ⟨least, isLeast⟩ := exists_isLeast_multiplesFrom value.toNat positive
    refine ⟨least, isLeast, Nat.le_of_not_lt fun fits => ?_⟩
    obtain ⟨next, found, -⟩ := alignUp?_le_of_dvd power isLeast.1.1 isLeast.1.2 fits
    rw [failed] at found
    contradiction
  · rintro ⟨least, isLeast, beyond⟩
    refine Option.eq_none_iff_forall_ne_some.mpr fun next found => ?_
    have same := isLeast.unique ((alignUp?_eq_some_iff power).mp found)
    exact Nat.not_le.mpr next.toNat_lt (same ▸ beyond)

/-- Rounding a size up ends at the least power of two that holds it. -/
theorem toNat_nextPowerOfTwo {n : UInt64} (positive : 0 < n.toNat) (small : n.toNat ≤ 2 ^ 63) :
    (nextPowerOfTwo n).toNat = 2 ^ Nat.clog 2 n.toNat := by
  unfold nextPowerOfTwo
  split
  next power =>
    obtain ⟨k, power⟩ := isPowerOfTwo_iff.mp power
    rw [power, Nat.clog_pow 2 k (by decide)]
  next other =>
    have above : 2 ^ n.toNat.log2 < n.toNat := by
      refine Nat.lt_of_le_of_ne (Nat.log2_self_le (Nat.pos_iff_ne_zero.mp positive)) fun same => ?_
      exact other (isPowerOfTwo_iff.mpr ⟨_, same.symm⟩)
    have below : n.toNat < 2 ^ (n.toNat.log2 + 1) := Nat.lt_log2_self
    have exponent : Nat.clog 2 n.toNat = n.toNat.log2 + 1 := by
      refine Nat.le_antisymm ((Nat.clog_le_iff_le_pow (by decide)).mpr (Nat.le_of_lt below)) ?_
      exact (Nat.lt_clog_iff_pow_lt (by decide)).mpr above
    have fits : n.toNat.log2 < 63 :=
      (Nat.pow_lt_pow_iff_right (by decide)).mp (Nat.lt_of_lt_of_le above small)
    rw [exponent, Nat.one_shiftLeft, UInt64.toNat_ofNat', Nat.mod_eq_of_lt]
    exact Nat.pow_lt_pow_right (by decide) (by omega)

/-- Rounding a size down ends at the power of two of its highest bit. -/
theorem toNat_previousPowerOfTwo {n : UInt64} :
    (previousPowerOfTwo n).toNat = 2 ^ n.toNat.log2 := by
  have exponent : n.log2.toNat = n.toNat.log2 := rfl
  have small : n.toNat.log2 < 64 := by
    by_cases zero : n.toNat = 0
    · simp [zero]
    · exact (Nat.log2_lt zero).mpr n.toNat_lt
  rw [previousPowerOfTwo, UInt64.toNat_shiftLeft, exponent, Nat.mod_eq_of_lt small,
    UInt64.toNat_one, Nat.one_shiftLeft, Nat.mod_eq_of_lt]
  exact Nat.pow_lt_pow_right (by decide) small

theorem trailingZeros_two_pow (k : Nat) : trailingZeros (2 ^ k) = k := by
  induction k with
  | zero => rw [trailingZeros]; rfl
  | succ k ih =>
    have even : 2 ^ (k + 1) % 2 = 0 := by rw [Nat.pow_succ]; exact Nat.mul_mod_left _ _
    rw [trailingZeros, if_pos ⟨Nat.two_pow_pos _, even⟩, Nat.pow_succ,
      Nat.mul_div_cancel _ (by decide), ih]

end SystemOnChip.Word
