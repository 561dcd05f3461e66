import SystemOnChip.Peripheral
import SystemOnChip.Proofs.Call
import SystemOnChip.Proofs.Word

/-! The capacity of a memory and the size of the cache in front of it, over the natural
numbers. The capacity is a number of bytes, but is found by way of the number of bits. -/
namespace SystemOnChip.SdramGeometry

/-- The bits that an address of a word has. -/
def addressBits (geometry : SdramGeometry) : Nat :=
  geometry.bankBits.toNat + geometry.rowBits.toNat + geometry.columnBits.toNat

def bits (geometry : SdramGeometry) : Nat := 2 ^ geometry.addressBits * geometry.dataBits.toNat

def bytes (geometry : SdramGeometry) : Nat := geometry.bits / 8

def accessBytes (geometry : SdramGeometry) : Nat := geometry.accessWidth.toNat / 8

/-- The words can be counted in 64 bits, and so can the bits in them. -/
def IsCounted (geometry : SdramGeometry) : Prop :=
  geometry.addressBits < 64 ∧ geometry.bits < 2 ^ 64

instance (geometry : SdramGeometry) : Decidable geometry.IsCounted :=
  inferInstanceAs (Decidable (_ ∧ _))

/-- Why a geometry is refused. -/
def fault (geometry : SdramGeometry) : Fault := .unsupported "sdram.geometry" <|
  s!"{geometry.bankBits} bank, {geometry.rowBits} row, {geometry.columnBits} column bits " ++
    s!"of {geometry.dataBits} data bits"

/-- The geometry has a capacity just where its bytes can be counted in 64 bits. -/
structure SizedByBytes (geometry : SdramGeometry) : Prop where
  sized : geometry.bytes < 2 ^ 64 →
    ∃ capacity, geometry.size.result = .ok capacity ∧ capacity.toNat = geometry.bytes
  refused : geometry.size.result = .error geometry.fault ↔ 2 ^ 64 ≤ geometry.bytes

/-- The size under which a cache is recorded: a power of two that is at most the given size or
two accesses, whichever is more, and more than half of that. -/
structure RoundsCache (geometry : SdramGeometry) (given recorded : UInt64) : Prop where
  without : given = 0 → recorded = 0
  rounded : given ≠ 0 → ∃ k, recorded.toNat = 2 ^ k ∧
    recorded.toNat ≤ max given.toNat (2 * geometry.accessBytes) ∧
    max given.toNat (2 * geometry.accessBytes) < 2 * recorded.toNat
  twoAccesses : given ≠ 0 → (∃ k, geometry.accessBytes = 2 ^ k) →
    2 * geometry.accessBytes ≤ recorded.toNat
  kept : (∃ k, given.toNat = 2 ^ k) → 2 * geometry.accessBytes ≤ given.toNat → recorded = given

variable {geometry : SdramGeometry} {capacity given : UInt64}

theorem bytes_lt_of_isCounted (counted : geometry.IsCounted) : geometry.bytes < 2 ^ 64 :=
  Nat.lt_of_le_of_lt (Nat.div_le_self _ _) counted.2

theorem size?_eq_some_iff :
    geometry.size? = some capacity ↔ geometry.IsCounted ∧ capacity.toNat = geometry.bytes := by
  unfold size?
  simp only [Nat.one_shiftLeft, Option.ite_none_right_eq_some, Option.some.injEq, ← and_assoc]
  refine and_congr_right fun counted => ?_
  change UInt64.ofNat geometry.bytes = capacity ↔ _
  rw [← UInt64.toNat_inj, UInt64.toNat_ofNat_of_lt' (bytes_lt_of_isCounted counted), eq_comm]

/-- Of a device with a cap no more bytes are mapped than that. -/
theorem toNat_min_capacity (sized : geometry.size? = some capacity) (cap : Option UInt64) :
    (min capacity (cap.getD capacity)).toNat = match cap with
      | some cap => min geometry.bytes cap.toNat
      | none => geometry.bytes := by
  have bytes := (size?_eq_some_iff.mp sized).2
  cases cap <;> simp [Word.toNat_min, bytes]

theorem size_ok_iff : geometry.size.result = .ok capacity ↔ geometry.size? = some capacity := by
  unfold size
  split <;> simp [*]

theorem size_ok_iff_isCounted : geometry.size.result = .ok capacity ↔
    geometry.IsCounted ∧ capacity.toNat = geometry.bytes :=
  size_ok_iff.trans size?_eq_some_iff

theorem size_error_iff_not_isCounted {other : Fault} : geometry.size.result = .error other ↔
    ¬ geometry.IsCounted ∧ other = geometry.fault := by
  cases sized : geometry.size? with
  | some capacity =>
    have counted := (size?_eq_some_iff.mp sized).1
    simp [size, sized, counted]
  | none =>
    have uncounted : ¬ geometry.IsCounted := by
      intro counted
      have found := size?_eq_some_iff.mpr
        ⟨counted, UInt64.toNat_ofNat_of_lt' (bytes_lt_of_isCounted counted)⟩
      rw [sized] at found
      contradiction
    simp [size, sized, uncounted, fault, eq_comm]

/-- The capacity is what its bytes tell, unless they can be counted and the bits or the words
cannot. -/
theorem sizedByBytes_iff :
    geometry.SizedByBytes ↔ geometry.IsCounted ∨ 2 ^ 64 ≤ geometry.bytes := by
  constructor
  · intro sized
    refine or_iff_not_imp_right.mpr fun few => ?_
    obtain ⟨capacity, answered, -⟩ := sized.sized (Nat.lt_of_not_le few)
    exact (size_ok_iff_isCounted.mp answered).1
  · rintro (counted | many)
    · have few := bytes_lt_of_isCounted counted
      have value : (UInt64.ofNat geometry.bytes).toNat = geometry.bytes :=
        UInt64.toNat_ofNat_of_lt' few
      refine ⟨fun _ => ⟨_, size_ok_iff_isCounted.mpr ⟨counted, value⟩, value⟩, ?_⟩
      simp only [size_error_iff_not_isCounted, counted, not_true_eq_false, false_and, false_iff]
      omega
    · have uncounted : ¬ geometry.IsCounted := fun counted =>
        Nat.not_lt.mpr many (bytes_lt_of_isCounted counted)
      refine ⟨fun few => absurd few (Nat.not_lt.mpr many), ?_⟩
      simp only [size_error_iff_not_isCounted, uncounted, not_false_eq_true, true_and, many]

theorem toNat_cacheSize (some : given ≠ 0) : (geometry.cacheSize given).toNat =
    2 ^ (max given.toNat (2 * geometry.accessBytes)).log2 := by
  have accesses : (2 * (geometry.accessWidth.toUInt64 / 8)).toNat = 2 * geometry.accessBytes := by
    have small := geometry.accessWidth.toNat_lt
    rw [UInt64.toNat_mul, UInt64.toNat_div, UInt32.toNat_toUInt64]
    change 2 * geometry.accessBytes % 2 ^ 64 = _
    rw [accessBytes]
    omega
  rw [cacheSize, if_neg some, Word.toNat_previousPowerOfTwo, Word.toNat_max, accesses]

theorem roundsCache (geometry : SdramGeometry) (given : UInt64) :
    geometry.RoundsCache given (geometry.cacheSize given) := by
  have rounded (some : given ≠ 0) :
      (geometry.cacheSize given).toNat ≤ max given.toNat (2 * geometry.accessBytes) ∧
      max given.toNat (2 * geometry.accessBytes) < 2 * (geometry.cacheSize given).toNat := by
    have positive : given.toNat ≠ 0 := fun zero => some (UInt64.toNat_inj.mp zero)
    rw [toNat_cacheSize some]
    constructor
    · apply Nat.log2_self_le
      omega
    · rw [← Nat.pow_succ']
      exact Nat.lt_log2_self
  constructor
  case without =>
    rintro rfl
    rfl
  case rounded => exact fun some => ⟨_, toNat_cacheSize some, rounded some⟩
  case twoAccesses =>
    rintro some ⟨k, power⟩
    have accesses : 2 * geometry.accessBytes = 2 ^ (k + 1) := by rw [power, ← Nat.pow_succ']
    have above := Nat.lt_of_le_of_lt (Nat.le_max_right _ _) (rounded some).2
    rw [toNat_cacheSize some, ← Nat.pow_succ', accesses] at above
    rw [toNat_cacheSize some, accesses]
    have exponent := (Nat.pow_lt_pow_iff_right (by decide)).mp above
    exact Nat.pow_le_pow_right (by decide) (Nat.le_of_lt_succ exponent)
  case kept =>
    rintro ⟨k, power⟩ larger
    have some : given ≠ 0 := by
      rintro rfl
      exact absurd power (Nat.ne_of_lt (Nat.two_pow_pos k))
    apply UInt64.toNat_inj.mp
    rw [toNat_cacheSize some, Nat.max_eq_left larger, power, Nat.log2_two_pow]

end SystemOnChip.SdramGeometry
