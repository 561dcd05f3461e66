import SystemOnChip.NameMap

/-! Look-ups by name in lists whose names are distinct, and in finite maps: what
is found is what is bound. -/
namespace SystemOnChip

namespace Names
variable {α : Type} {entries : List (String × α)} {name : String} {value : α}

theorem mem_of_lookup (found : entries.lookup name = some value) : (name, value) ∈ entries := by
  obtain ⟨before, after, rfl, -⟩ := List.lookup_eq_some_iff.mp found
  exact List.mem_append_right _ List.mem_cons_self

theorem mem_map_of_mem (member : (name, value) ∈ entries) : name ∈ entries.map (·.1) :=
  List.mem_map.mpr ⟨_, member, rfl⟩

theorem lookup_of_mem (distinct : (entries.map (·.1)).Nodup) (member : (name, value) ∈ entries) :
    entries.lookup name = some value := by
  induction entries with
  | nil => contradiction
  | cons entry rest ih =>
    obtain ⟨key, held⟩ := entry
    rw [List.map_cons, List.nodup_cons] at distinct
    rw [NameMap.lookup_cons]
    rcases List.mem_cons.mp member with same | later
    · cases same
      rw [if_pos rfl]
    · have other : name ≠ key := by
        rintro rfl
        exact distinct.1 (mem_map_of_mem later)
      rw [if_neg other]
      exact ih distinct.2 later

theorem lookup_isSome_iff : (entries.lookup name).isSome ↔ name ∈ entries.map (·.1) := by
  rw [List.lookup_isSome_iff, List.mem_map]
  constructor
  · rintro ⟨entry, member, same⟩
    exact ⟨entry, member, (beq_iff_eq.mp same).symm⟩
  · rintro ⟨entry, member, same⟩
    exact ⟨entry, member, beq_iff_eq.mpr same.symm⟩

theorem lookup_isNone_iff : (entries.lookup name).isNone ↔ name ∉ entries.map (·.1) := by
  rw [← lookup_isSome_iff, Bool.not_eq_true, Option.isSome_eq_false_iff]

theorem lookup_of_prefix {first second : List (String × α)} (longer : first <+: second)
    (found : first.lookup name = some value) : second.lookup name = some value := by
  obtain ⟨rest, rfl⟩ := longer
  rw [List.lookup_append, found, Option.some_or]

theorem lookup_concat_of_isNone (fresh : (entries.lookup name).isNone) :
    (entries ++ [(name, value)]).lookup name = some value := by
  rw [List.lookup_append, Option.isNone_iff_eq_none.mp fresh, NameMap.lookup_cons, if_pos rfl,
    Option.none_or]

/-- A name is still distinct from all others once it is put behind them. -/
theorem nodup_concat {names : List String} (distinct : names.Nodup) (fresh : name ∉ names) :
    (names ++ [name]).Nodup := by
  rw [List.nodup_append]
  refine ⟨distinct, List.pairwise_singleton _ _, ?_⟩
  rintro other member _ single rfl
  exact fresh (List.mem_singleton.mp single ▸ member)

/-- The only name of a list that passes a test is the first one that does. -/
theorem find?_eq_some_of_only {names : List String} {test : String → Bool} (member : name ∈ names)
    (passes : test name = true) (only : ∀ other ∈ names, name ≠ other → test other = false) :
    names.find? test = some name := by
  cases found : names.find? test with
  | none =>
    rw [List.find?_eq_none] at found
    exact absurd passes (found name member)
  | some other =>
    have passesToo := List.find?_some found
    by_cases same : name = other
    · rw [same]
    · rw [only other (List.mem_of_find?_eq_some found) same] at passesToo
      contradiction

/-- A name behind others comes out first just if none of them passes the test. -/
theorem find?_or_eq_iff {names : List String} {test : String → Bool} (fresh : name ∉ names) :
    (names.find? test).or (some name) = some name ↔ ∀ other ∈ names, test other = false := by
  cases found : names.find? test with
  | none =>
    rw [List.find?_eq_none] at found
    simpa using found
  | some other =>
    have member := List.mem_of_find?_eq_some found
    have passes := List.find?_some found
    rw [Option.some_or, Option.some.injEq]
    constructor
    · rintro rfl
      exact absurd member fresh
    · intro fails
      rw [fails other member] at passes
      contradiction

end Names

namespace NameMap
variable {α : Type} {map : NameMap α} {name : String} {value : α}

theorem names_nodup (map : NameMap α) : (map.entries.map (·.1)).Nodup := by
  refine List.pairwise_map.mpr (map.sorted.imp fun {a b} below => ?_)
  intro same
  exact String.lt_irrefl _ (same ▸ below)

theorem mem_entries_iff : (name, value) ∈ map.entries ↔ map.get? name = some value :=
  ⟨Names.lookup_of_mem map.names_nodup, Names.mem_of_lookup⟩

/-- Maps in which every name is bound alike are the same. -/
theorem eq_of_get? {other : NameMap α} (same : ∀ name, map.get? name = other.get? name) :
    map = other := by
  have distinct (map : NameMap α) : map.entries.Nodup :=
    (List.pairwise_map.mp map.names_nodup).imp fun different => different ∘ congrArg Prod.fst
  have perm : map.entries.Perm other.entries := by
    rw [List.perm_ext_iff_of_nodup (distinct map) (distinct other)]
    intro entry
    rw [mem_entries_iff, mem_entries_iff, same]
  refine ext (perm.eq_of_pairwise (fun a b _ _ below above => ?_) map.sorted other.sorted)
  exact absurd above (String.lt_asymm below)

theorem insert_comm {other : String} {held : α} (different : name ≠ other) :
    (map.insert name value).insert other held = (map.insert other held).insert name value := by
  apply eq_of_get?
  intro key
  simp only [get?_insert]
  split
  next last => rw [if_neg (last ▸ different.symm)]
  next => rfl

theorem contains_iff : map.contains name = true ↔ name ∈ map.entries.map (·.1) :=
  Names.lookup_isSome_iff

theorem contains_eq_false_iff : map.contains name = false ↔ map.get? name = none := by
  rw [contains, Option.isSome_eq_false_iff, Option.isNone_iff_eq_none]

theorem contains_insert (map : NameMap α) (name other : String) (value : α) :
    (map.insert name value).contains other = (other == name || map.contains other) := by
  rw [contains, get?_insert, contains]
  by_cases same : other = name <;> simp [same]

theorem contains_insert_self : (map.insert name value).contains name = true := by
  rw [contains_insert, beq_self_eq_true, Bool.true_or]

/-- What the first map binds, the second one binds alike. -/
def Within (map other : NameMap α) : Prop :=
  ∀ name value, map.get? name = some value → other.get? name = some value

theorem Within.refl : map.Within map := fun _ _ bound => bound

theorem Within.trans {middle other : NameMap α} (first : map.Within middle)
    (second : middle.Within other) : map.Within other :=
  fun name value bound => second name value (first name value bound)

theorem within_insert (fresh : map.contains name = false) : map.Within (map.insert name value) := by
  intro key held bound
  have different : key ≠ name := by
    rintro rfl
    rw [contains_eq_false_iff.mp fresh] at bound
    contradiction
  rw [get?_insert, if_neg different, bound]

theorem Within.contains {other : NameMap α} (within : map.Within other)
    (held : map.contains name = true) : other.contains name = true := by
  obtain ⟨value, found⟩ := Option.isSome_iff_exists.mp held
  exact Option.isSome_iff_exists.mpr ⟨value, within name value found⟩

/-- A name behind all others is bound at the end. -/
theorem bind_of_last {entries : List (String × α)} (last : ∀ entry ∈ entries, entry.1 < name) :
    bind name value entries = entries ++ [(name, value)] := by
  induction entries with
  | nil => rfl
  | cons entry rest ih =>
    have below := last entry List.mem_cons_self
    have other : name ≠ entry.1 := fun same => String.lt_irrefl _ (same ▸ below)
    rw [bind, if_neg (String.lt_asymm below), if_neg other,
      ih fun later member => last later (List.mem_cons_of_mem _ member), List.cons_append]

/-- Bindings in the order of their names are entered one behind the other. -/
theorem entries_foldl_insert {entries : List (String × α)}
    (sorted : (map.entries ++ entries).Pairwise (·.1 < ·.1)) :
    (entries.foldl (fun map (name, value) => map.insert name value) map).entries =
      map.entries ++ entries := by
  induction entries generalizing map with
  | nil => rw [List.foldl_nil, List.append_nil]
  | cons entry rest ih =>
    obtain ⟨name, value⟩ := entry
    have entered : (map.insert name value).entries = map.entries ++ [(name, value)] :=
      bind_of_last fun earlier member =>
        (List.pairwise_append.mp sorted).2.2 earlier member _ List.mem_cons_self
    rw [List.append_cons, ← entered] at sorted
    rw [List.foldl_cons, ih sorted, entered, List.append_assoc, List.singleton_append]

theorem ofList_entries (map : NameMap α) : ofList map.entries = map := by
  have sorted : ((empty : NameMap α).entries ++ map.entries).Pairwise (·.1 < ·.1) := map.sorted
  exact ext (entries_foldl_insert sorted)

end NameMap

end SystemOnChip
