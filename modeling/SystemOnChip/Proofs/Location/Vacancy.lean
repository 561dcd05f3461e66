import SystemOnChip.Proofs.Location

/-! The free locations of a table. The least one is found whenever there is one,
and there is none exactly when as many locations are in use as there are. -/
namespace SystemOnChip.LocationTable

variable {table : LocationTable} {name : String} {slot : UInt32}

/-- Among one number more than are in use, one is free. -/
theorem exists_free {taken : List UInt32} {count : Nat} (more : taken.length < count)
    (fits : count ≤ UInt32.size) : ∃ index < count, UInt32.ofNat index ∉ taken := by
  by_contra none
  simp only [not_exists, not_and, not_not] at none
  have distinct : ((List.range count).map UInt32.ofNat).Nodup := by
    refine List.pairwise_map.mpr ?_
    refine List.nodup_range.imp_of_mem fun {a b} smallA smallB different => ?_
    intro same
    have values := congrArg UInt32.toNat same
    rw [List.mem_range] at smallA smallB
    rw [UInt32.toNat_ofNat', UInt32.toNat_ofNat', Nat.mod_eq_of_lt (Nat.lt_of_lt_of_le smallA fits),
      Nat.mod_eq_of_lt (Nat.lt_of_lt_of_le smallB fits)] at values
    exact different values
  have covered : (List.range count).map UInt32.ofNat ⊆ taken := by
    intro number member
    obtain ⟨index, small, rfl⟩ := List.mem_map.mp member
    exact none index (List.mem_range.mp small)
  have bound := distinct.length_le_of_subset covered
  rw [List.length_map, List.length_range] at bound
  omega

/-- The search is cut off behind one location more than are in use, which loses
no free one. -/
theorem firstFree?_eq_none_iff :
    table.firstFree? = none ↔ ∀ slot < table.capacity, slot ∈ table.taken := by
  simp only [firstFree?, List.find?_eq_none, List.mem_map, List.mem_range, forall_exists_index,
    and_imp, forall_apply_eq_imp_iff₂, Bool.not_eq_true, Bool.not_eq_false',
    List.contains_iff_mem]
  have range := table.capacity.toNat_lt
  constructor
  · intro full slot below
    have capacity : table.capacity.toNat ≤ table.taken.length := by
      by_contra more
      obtain ⟨index, small, free⟩ := exists_free (Nat.lt_succ_self table.taken.length)
        (Nat.le_trans (Nat.not_le.mp more) (Nat.le_of_lt range))
      exact free (full index (Nat.lt_min.mpr ⟨by omega, small⟩))
    have below := UInt32.lt_iff_toNat_lt.mp below
    have member := full slot.toNat (Nat.lt_min.mpr ⟨below, by omega⟩)
    rwa [UInt32.ofNat_toNat] at member
  · intro full index small
    have below := Nat.lt_of_lt_of_le small (Nat.min_le_left _ _)
    apply full
    rw [UInt32.lt_iff_toNat_lt, UInt32.toNat_ofNat', Nat.mod_eq_of_lt (Nat.lt_trans below range)]
    exact below

theorem lower_taken (found : table.firstFree? = some slot) :
    ∀ lower < slot, lower ∈ table.taken := by
  intro lower below
  rw [firstFree?, List.find?_map, Option.map_eq_some_iff] at found
  obtain ⟨index, found, rfl⟩ := found
  obtain ⟨-, -, passed⟩ := List.find?_range_eq_some.mp found
  rw [UInt32.lt_iff_toNat_lt, UInt32.toNat_ofNat'] at below
  have held := passed lower.toNat (Nat.lt_of_lt_of_le below (Nat.mod_le _ _))
  simpa using held

/-- The location found is the least one not in use. -/
theorem firstFree?_eq_some_iff : table.firstFree? = some slot ↔
    slot < table.capacity ∧ slot ∉ table.taken ∧ ∀ lower < slot, lower ∈ table.taken := by
  constructor
  · intro found
    obtain ⟨below, free⟩ := firstFree?_eq_some found
    exact ⟨below, free, lower_taken found⟩
  · rintro ⟨below, free, least⟩
    cases found : table.firstFree? with
    | none => exact absurd (firstFree?_eq_none_iff.mp found slot below) free
    | some other =>
      obtain ⟨-, otherFree⟩ := firstFree?_eq_some found
      congr 1
      apply UInt32.le_antisymm
      · exact UInt32.not_lt.mp fun less => free (lower_taken found slot less)
      · exact UInt32.not_lt.mp fun less => otherFree (least other less)

theorem get?_of_owner? (owned : table.owner? slot = some name) : table.get? name = some slot := by
  rw [owner?, Option.map_eq_some_iff] at owned
  obtain ⟨entry, found, rfl⟩ := owned
  have same := List.find?_some found
  rw [beq_iff_eq] at same
  subst same
  exact NameMap.mem_entries_iff.mp (List.mem_of_find?_eq_some found)

namespace Sound

/-- The numbers of a table, as natural numbers: distinct, and below the capacity. -/
theorem numbers_nodup (sound : table.Sound) :
    (table.slots.entries.map fun entry => entry.2.toNat).Nodup := by
  refine List.pairwise_map.mpr (sound.numbers_distinct.imp fun {a b} different same => ?_)
  exact different (UInt32.toNat_inj.mp same)

theorem numbers_subset (sound : table.Sound) :
    table.slots.entries.map (fun entry => entry.2.toNat) ⊆ List.range table.capacity.toNat := by
  intro number member
  obtain ⟨entry, listed, rfl⟩ := List.mem_map.mp member
  have below := sound.bounded entry.1 entry.2 (NameMap.mem_entries_iff.mp listed)
  exact List.mem_range.mpr (UInt32.lt_iff_toNat_lt.mp below)

/-- All locations are in use exactly when there are as many entries as locations. -/
theorem full_iff (sound : table.Sound) :
    (∀ slot < table.capacity, slot ∈ table.taken) ↔ table.size = table.capacity.toNat := by
  have size : table.size = (table.slots.entries.map fun entry => entry.2.toNat).length := by
    rw [List.length_map]
    rfl
  have within := sound.numbers_nodup.length_le_of_subset sound.numbers_subset
  rw [← size, List.length_range] at within
  constructor
  · intro full
    have covered : List.range table.capacity.toNat ⊆
        table.slots.entries.map fun entry => entry.2.toNat := by
      intro number small
      rw [List.mem_range] at small
      have value : (UInt32.ofNat number).toNat = number := by
        rw [UInt32.toNat_ofNat', Nat.mod_eq_of_lt (Nat.lt_trans small table.capacity.toNat_lt)]
      have below : UInt32.ofNat number < table.capacity := by
        rwa [UInt32.lt_iff_toNat_lt, value]
      obtain ⟨name, held⟩ := (sound.taken _).mp (full _ below)
      exact List.mem_map.mpr ⟨_, NameMap.mem_entries_iff.mpr held, value⟩
    have bound := List.nodup_range.length_le_of_subset covered
    rw [← size, List.length_range] at bound
    omega
  · intro same slot below
    by_contra free
    have fresh : slot.toNat ∉ table.slots.entries.map fun entry => entry.2.toNat := by
      intro member
      obtain ⟨entry, listed, value⟩ := List.mem_map.mp member
      rw [sound.taken, ← UInt32.toNat_inj.mp value] at free
      exact free ⟨entry.1, NameMap.mem_entries_iff.mp listed⟩
    have more := (List.nodup_cons.mpr ⟨fresh, sound.numbers_nodup⟩).length_le_of_subset
      (List.cons_subset.mpr
        ⟨List.mem_range.mpr (UInt32.lt_iff_toNat_lt.mp below), sound.numbers_subset⟩)
    rw [List.length_cons, ← size, List.length_range] at more
    omega

theorem owner?_eq_some_iff (sound : table.Sound) :
    table.owner? slot = some name ↔ table.get? name = some slot := by
  refine ⟨get?_of_owner?, fun held => ?_⟩
  cases owned : table.owner? slot with
  | none => exact absurd held (not_taken_of_owner?_eq_none owned name)
  | some other => rw [sound.injective _ _ _ (get?_of_owner? owned) held]

theorem not_taken_iff (sound : table.Sound) :
    slot ∉ table.taken ↔ ∀ other, table.get? other ≠ some slot := by
  rw [sound.taken, not_exists]

theorem allocate_ok_iff (sound : table.Sound) : (table.allocate name).result = .ok slot ↔
    slot < table.capacity ∧ (∀ other, table.get? other ≠ some slot) ∧
      ∀ lower < slot, ∃ other, table.get? other = some lower := by
  rw [allocate, Verdict.result_orDump, vacancy_ok_iff, firstFree?_eq_some_iff, sound.not_taken_iff]
  simp only [sound.taken]

theorem allocate_error_iff (sound : table.Sound) {fault : Fault} :
    (table.allocate name).result = .error fault ↔
      fault = .capacityExhausted table.space table.capacity ∧
        table.size = table.capacity.toNat := by
  rw [allocate, Verdict.result_orDump, ← sound.full_iff, ← firstFree?_eq_none_iff, vacancy]
  cases table.firstFree? <;> simp [eq_comm]

end Sound

theorem choose_of_unknown (unknown : table.get? name = none) :
    table.choose name none = table.vacancy name := by
  have fresh : table.slots.contains name = false := NameMap.contains_eq_false_iff.mpr unknown
  rw [choose, fresh]
  exact pure_bind _ _

/-- A new name without a wanted number gets what `allocate` answers. -/
theorem result_assign_of_unknown {reuse : Bool} (unknown : table.get? name = none) :
    (assign name none reuse table).result = (table.allocate name).result := by
  have asked : ((Call.ask fun table => (table.choose name none).orDump table.text :
      Call LocationTable UInt32) table).result = (table.allocate name).result := by
    rw [Call.ask, choose_of_unknown unknown, allocate]
  have current : (Call.current table).result = .ok table := rfl
  refine (Call.bind_ok _ current).1.trans ?_
  simp only [Call.current, unknown]
  exact (Call.result_bind_of_answers fun _ _ => rfl).trans asked

end SystemOnChip.LocationTable
