import SystemOnChip.Location
import SystemOnChip.Proofs.Call
import SystemOnChip.Proofs.Names
import SystemOnChip.Proofs.Sorting

/-! Location tables: names and numbers determine each other, and every number is
below the capacity. -/
namespace SystemOnChip.LocationTable
open Relation (ReflTransGen)

/-- A table changes only by recording a location that was chosen for a name. -/
inductive Step (table : LocationTable) : LocationTable → Prop where
  | record {name wanted slot} (chosen : (table.choose name wanted).result = .ok slot) :
      Step table (table.record name slot)

structure Sound (table : LocationTable) : Prop where
  injective : ∀ a b slot, table.get? a = some slot → table.get? b = some slot → a = b
  bounded : ∀ name slot, table.get? name = some slot → slot < table.capacity
  taken : ∀ slot, slot ∈ table.taken ↔ ∃ name, table.get? name = some slot

variable {table after : LocationTable} {name : String} {slot : UInt32}

theorem assign_runs {wanted : Option UInt32} {reuse : Bool} :
    (assign name wanted reuse).Runs Step table fun answer after =>
      after.get? name = some answer := by
  apply Call.Runs.bind_current
  split
  next known => exact .bind_info (.pure known)
  next =>
    refine .bind_ask fun answer chosen => ?_
    rw [Verdict.result_orDump] at chosen
    apply Call.Runs.bind_update (.record chosen)
    refine .bind_info (.pure ?_)
    rw [get?, record, NameMap.get?_insert, if_pos rfl]

theorem not_taken_of_owner?_eq_none (free : table.owner? slot = none) (other : String) :
    table.get? other ≠ some slot := by
  intro held
  rw [owner?, Option.map_eq_none_iff, List.find?_eq_none] at free
  exact free _ (NameMap.mem_entries_iff.mpr held) (beq_self_eq_true slot)

theorem firstFree?_eq_some (found : table.firstFree? = some slot) :
    slot < table.capacity ∧ slot ∉ table.taken := by
  have member := List.mem_of_find?_eq_some found
  have free := List.find?_some found
  obtain ⟨index, small, rfl⟩ := List.mem_map.mp member
  have below := Nat.lt_of_lt_of_le (List.mem_range.mp small) (Nat.min_le_left _ _)
  have fits := Nat.lt_trans below table.capacity.toNat_lt
  refine ⟨?_, by simpa using free⟩
  rw [UInt32.lt_iff_toNat_lt, UInt32.toNat_ofNat', Nat.mod_eq_of_lt fits]
  exact below

theorem vacancy_ok_iff : (table.vacancy name).result = .ok slot ↔ table.firstFree? = some slot := by
  cases found : table.firstFree? <;> simp [vacancy, found]

/-- A new name gets the least free location, or the wanted one if that is free and
there. -/
theorem choose_ok_iff {wanted : Option UInt32} : (table.choose name wanted).result = .ok slot ↔
    table.get? name = none ∧ (wanted = none ∧ table.firstFree? = some slot ∨
      wanted = some slot ∧ table.owner? slot = none ∧ slot < table.capacity) := by
  unfold choose
  simp only [Verdict.bind_ok_iff, Verdict.require_ok_iff, Bool.not_eq_true',
    NameMap.contains_eq_false_iff, exists_and_left, exists_const]
  refine and_congr_right fun _ => ?_
  cases wanted with
  | none => simp [vacancy_ok_iff]
  | some given =>
    dsimp only
    cases owned : table.owner? given with
    | some owner =>
      simp only [Verdict.result_fail, reduceCtorEq, false_iff, false_and, false_or, not_and,
        Option.some.injEq]
      rintro rfl free
      rw [owned] at free
      contradiction
    | none =>
      simp only [Verdict.bind_ok_iff, Verdict.require_ok_iff, decide_eq_true_eq,
        Verdict.result_pure, Except.ok.injEq, exists_and_left, exists_const, reduceCtorEq,
        false_and, false_or, Option.some.injEq]
      constructor
      · rintro ⟨below, rfl⟩
        exact ⟨rfl, owned, below⟩
      · rintro ⟨rfl, -, below⟩
        exact ⟨below, rfl⟩

/-- Without reuse, a name is recorded at the location that is chosen for it. -/
theorem assign_records {wanted : Option UInt32} : (assign name wanted false).Runs Step table
    fun answer after => (table.choose name wanted).result = .ok answer ∧
      after = table.record name answer := by
  apply Call.Runs.bind_current
  refine .bind_ask fun answer chosen => ?_
  rw [Verdict.result_orDump] at chosen
  apply Call.Runs.bind_update (.record chosen)
  exact .bind_info (.pure ⟨chosen, rfl⟩)

/-- A name that is not reused is recorded at the location it asks for, if at all. -/
theorem assign_wanted_runs : (assign name (some slot) false).Runs Step table fun _ after =>
    after.get? name = some slot := by
  refine .weaken assign_records ?_
  rintro answer _ ⟨chosen, rfl⟩
  obtain ⟨-, ⟨none, -⟩ | ⟨given, -⟩⟩ := choose_ok_iff.mp chosen
  · contradiction
  · rw [get?, record, NameMap.get?_insert, if_pos rfl, given]

namespace Sound

/-- A chosen location is within the capacity, and neither it nor its name is
in use. -/
theorem choose_ok (sound : table.Sound) {wanted : Option UInt32}
    (chosen : (table.choose name wanted).result = .ok slot) :
    table.get? name = none ∧ slot < table.capacity ∧ ∀ other, table.get? other ≠ some slot := by
  obtain ⟨fresh, ⟨-, found⟩ | ⟨-, free, below⟩⟩ := choose_ok_iff.mp chosen
  · obtain ⟨below, free⟩ := firstFree?_eq_some found
    exact ⟨fresh, below, fun other held => free ((sound.taken slot).mpr ⟨other, held⟩)⟩
  · exact ⟨fresh, below, not_taken_of_owner?_eq_none free⟩

theorem step (sound : table.Sound) (moved : Step table after) : after.Sound := by
  obtain @⟨name, _, slot, chosen⟩ := moved
  obtain ⟨fresh, below, free⟩ := sound.choose_ok chosen
  have get (other : String) : (table.record name slot).get? other =
      if other = name then some slot else table.get? other := NameMap.get?_insert ..
  refine ⟨?_, ?_, ?_⟩
  · intro a b held heldA heldB
    rw [get] at heldA heldB
    split at heldA <;> split at heldB
    next sameA sameB => exact sameA.trans sameB.symm
    next => exact absurd (Option.some.inj heldA ▸ heldB) (free b)
    next => exact absurd (Option.some.inj heldB ▸ heldA) (free a)
    next => exact sound.injective a b held heldA heldB
  · intro other held heldOther
    rw [get] at heldOther
    split at heldOther
    next => exact Option.some.inj heldOther ▸ below
    next => exact sound.bounded other held heldOther
  · intro held
    rw [record, List.mem_cons, sound.taken]
    constructor
    · rintro (rfl | ⟨other, heldOther⟩)
      · exact ⟨name, by rw [← record, get, if_pos rfl]⟩
      · have different : other ≠ name := by
          rintro rfl
          rw [fresh] at heldOther
          contradiction
        exact ⟨other, by rw [← record, get, if_neg different, heldOther]⟩
    · rintro ⟨other, heldOther⟩
      rw [← record, get] at heldOther
      split at heldOther
      next => exact .inl (Option.some.inj heldOther).symm
      next => exact .inr ⟨other, heldOther⟩

theorem empty {space : String} {capacity : UInt32} : Sound { space, capacity } where
  injective _ _ _ held := by contradiction
  bounded _ _ held := by contradiction
  taken slot := by
    constructor
    · intro member
      contradiction
    · rintro ⟨_, held⟩
      contradiction

end Sound

/-- The later table has all entries of the earlier one, and the same capacity. -/
structure Extends (table after : LocationTable) : Prop where
  capacity : after.capacity = table.capacity
  slots : table.slots.Within after.slots

theorem Extends.refl : table.Extends table := ⟨rfl, .refl⟩

theorem Extends.trans {middle : LocationTable} (first : table.Extends middle)
    (second : middle.Extends after) : table.Extends after :=
  ⟨second.capacity.trans first.capacity, first.slots.trans second.slots⟩

/-- A location is recorded under a new name only. -/
theorem Step.extends (moved : Step table after) : table.Extends after := by
  obtain ⟨chosen⟩ := moved
  obtain ⟨fresh, -⟩ := choose_ok_iff.mp chosen
  exact ⟨rfl, NameMap.within_insert (NameMap.contains_eq_false_iff.mpr fresh)⟩

theorem extends_of_steps (path : ReflTransGen Step table after) : table.Extends after :=
  Call.keeps_of_path (fun _ _ moved grown => grown.trans (Step.extends moved)) path .refl

/-- What a table becomes when a name is assigned a location: the name stands at the
location answered, which is the wanted one unless another may be reused. -/
structure Assigns (table : LocationTable) (name : String) (wanted : Option UInt32) (reuse : Bool)
    (slot : UInt32) (after : LocationTable) : Prop where
  grown : table.Extends after
  known : after.get? name = some slot
  given : reuse = false → ∀ other, wanted = some other → slot = other

theorem assign_assigns {wanted : Option UInt32} {reuse : Bool} :
    (assign name wanted reuse).Runs Step table fun slot after =>
      table.Assigns name wanted reuse slot after where
  path := assign_runs.path
  done := by
    intro slot ended
    have known := assign_runs.done slot ended
    refine ⟨extends_of_steps assign_runs.path, known, ?_⟩
    rintro rfl other rfl
    have recorded := assign_wanted_runs.done slot ended
    exact Option.some.inj (known.symm.trans recorded)

theorem Sound.steps (sound : table.Sound) (path : ReflTransGen Step table after) :
    after.Sound :=
  Call.keeps_of_path (fun _ _ moved sound => Sound.step sound moved) path sound

theorem mem_byLocation_iff : (name, slot) ∈ table.byLocation ↔ table.get? name = some slot := by
  rw [byLocation, List.mem_mergeSort, NameMap.mem_entries_iff, get?]

theorem Sound.numbers_distinct (sound : table.Sound) :
    table.slots.entries.Pairwise fun a b => a.2 ≠ b.2 := by
  have names := List.pairwise_map.mp table.slots.names_nodup
  refine names.imp_of_mem fun {a b} memberA memberB different same => different ?_
  exact sound.injective a.1 b.1 b.2 (same ▸ NameMap.mem_entries_iff.mp memberA)
    (NameMap.mem_entries_iff.mp memberB)

/-- Entries by location are in strict order, as no two share their location. -/
theorem Sound.byLocation_increasing (sound : table.Sound) :
    table.byLocation.Pairwise (·.2 < ·.2) :=
  Sorting.pairwise_lt_mergeSort sound.numbers_distinct

end SystemOnChip.LocationTable
