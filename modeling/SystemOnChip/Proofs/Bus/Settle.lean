import SystemOnChip.Bus.Declare
import SystemOnChip.Proofs.Call
import SystemOnChip.Proofs.Placement

/-! What a declared region satisfies at the time it is stored, whether it came
with an origin or one was searched for it. -/
namespace SystemOnChip.Bus

/-- The regions of one kind. -/
def table (bus : Bus) : RegionKind → RegionTable
  | .bus => bus.regions
  | .io => bus.windows
  | .linker => bus.linkerRegions

/-- The names in all three tables. -/
def regionNames (bus : Bus) : List String :=
  (bus.regions.entries ++ bus.windows.entries ++ bus.linkerRegions.entries).map (·.1)

variable {bus : Bus} {name : String} {given stored : Region}

theorem table_store_entries (kind : RegionKind) : ((bus.store name stored).table kind).entries =
    (bus.table kind).entries ++ if stored.kind = kind then [(name, stored)] else [] := by
  unfold store
  cases same : stored.kind <;> cases kind <;> simp [table, RegionTable.push]

theorem regionNames_store : (bus.store name stored).regionNames.Perm (name :: bus.regionNames) := by
  refine List.perm_iff_count.mpr fun other => ?_
  unfold store
  cases stored.kind <;> simp only [regionNames, RegionTable.push, List.map_append, List.map_cons,
    List.map_nil, List.count_append, List.count_cons, List.count_nil] <;> omega

theorem mem_regionNames (kind : RegionKind) (member : name ∈ (bus.table kind).entries.map (·.1)) :
    name ∈ bus.regionNames := by
  cases kind <;> simp only [regionNames, List.map_append, List.mem_append]
  · exact .inl (.inl member)
  · exact .inl (.inr member)
  · exact .inr member

theorem requireDisjoint_ok_iff {table : RegionTable} {region : Region} :
    (requireDisjoint table name region).result = .ok () ↔
      findOverlap (table.push name region).entries = none := by
  cases found : findOverlap (table.push name region).entries <;> simp [requireDisjoint, found]

/-- A region put behind a table overlaps none of its regions. -/
theorem separate_of_requireDisjoint {table : RegionTable} {region : Region}
    (legal : (requireDisjoint table name region).result = .ok ()) :
    ∀ entry ∈ table.entries, entry.2.overlaps region = false := by
  have pairs := findOverlap_eq_none_iff.mp (requireDisjoint_ok_iff.mp legal)
  rw [RegionTable.push, List.pairwise_append] at pairs
  intro entry member
  exact pairs.2.2 entry member _ List.mem_cons_self

theorem requireLegal_ok_iff {origin : UInt64} :
    (bus.requireLegal name origin given).result = .ok () ↔
      (given.kind = .linker ∨ bus.fits origin given.size = true) ∧
      (given.kind = .io → (requireDisjoint bus.windows name given).result = .ok ()) ∧
      (given.kind = .bus → (given.cached = true ∨ bus.isUncacheable given = true) ∧
        (requireDisjoint bus.regions name given).result = .ok ()) := by
  cases kind : given.kind <;> simp [requireLegal, kind]

theorem unused_iff : (!(bus.regions.contains name || bus.windows.contains name ||
    bus.linkerRegions.contains name)) = true ↔ name ∉ bus.regionNames := by
  rw [Bool.not_eq_true', Bool.eq_false_iff]
  simp only [ne_eq, Bool.or_eq_true, RegionTable.contains_iff, regionNames, List.map_append,
    List.mem_append]

/-- A declaration is settled on the given region if that has an origin, and
else on a region that the search answers. -/
theorem settle_ok_iff : (bus.settle name given).result = .ok stored ↔
    name ∉ bus.regionNames ∧ given.isAligned = true ∧
      ((∃ origin, given.origin = some origin ∧ given = stored ∧
        (bus.requireLegal name origin given).result = .ok ()) ∨
      (given.origin = none ∧ given.kind = .bus ∧ ∃ placed,
        (Placement.place ⟨name, given.size, given.cached⟩ bus.addressWidth bus.windows
          bus.regions).result = .ok placed ∧
        { placed with mode := given.mode } = stored)) := by
  simp only [settle, Verdict.bind_ok_iff, Verdict.require_ok_iff, unused_iff]
  cases given.origin with
  | none => simp
  | some origin =>
    simp only [Verdict.bind_ok_iff, Verdict.result_pure, Except.ok.injEq, Option.some.injEq,
      reduceCtorEq, false_and, or_false, exists_and_left, exists_eq_left', exists_const]
    refine and_congr_right fun _ => and_congr_right fun _ => ?_
    constructor
    · rintro ⟨_, legal, same⟩
      exact ⟨same, legal⟩
    · rintro ⟨same, legal⟩
      exact ⟨(), legal, same⟩

/-- Where only the search for an origin fails, its fault is that of the declaration. -/
theorem settle_error_of_place {fault : Fault} (fresh : name ∉ bus.regionNames)
    (aligned : given.isAligned = true) (unplaced : given.origin = none) (kind : given.kind = .bus)
    (exhausted : (Placement.place ⟨name, given.size, given.cached⟩ bus.addressWidth bus.windows
      bus.regions).result = .error fault) : (bus.settle name given).result = .error fault := by
  simp [settle, unused_iff.mpr fresh, aligned, unplaced, kind, exhausted]

/-- What is known of a region at the time it is stored. -/
structure Settled (bus : Bus) (name : String) (stored : Region) : Prop where
  fresh : name ∉ bus.regionNames
  placed : stored.IsPlaced
  room : stored.kind ≠ .linker → stored.limit ≤ bus.addressLimit.toNat ∨
    ∃ window ∈ bus.windows.entries, stored.Inside window.2
  separate : ∀ entry ∈ (bus.table stored.kind).entries, entry.2.overlaps stored = false
  uncached : stored.kind = .bus → stored.cached = false →
    ∃ window ∈ bus.windows.entries, stored.Inside window.2

theorem fits_iff {origin : UInt64} (origin_eq : given.origin = some origin) :
    bus.fits origin given.size = true ↔ given.limit ≤ bus.addressLimit.toNat := by
  simp only [fits, Bool.and_eq_true, decide_eq_true_eq, UInt64.le_iff_toNat_le,
    UInt64.toNat_add, Region.limit, Region.first, origin_eq, Option.getD_some]
  have bounded := bus.addressLimit.toNat_lt
  constructor
  · rintro ⟨small, below⟩
    rwa [Nat.mod_eq_of_lt small] at below
  · intro below
    have small := Nat.lt_of_le_of_lt below bounded
    exact ⟨small, by rwa [Nat.mod_eq_of_lt small]⟩

theorem inside_of_isUncacheable (inside : bus.isUncacheable given = true) :
    ∃ window ∈ bus.windows.entries, given.Inside window.2 := by
  obtain ⟨window, member, within⟩ := List.any_eq_true.mp inside
  exact ⟨window, member, (Region.inside_of_isWithin within).1⟩

theorem settled_of_legal {origin : UInt64} (fresh : name ∉ bus.regionNames)
    (aligned : given.isAligned = true) (origin_eq : given.origin = some origin)
    (legal : (bus.requireLegal name origin given).result = .ok ()) : bus.Settled name given := by
  obtain ⟨fits, io, decoded⟩ := requireLegal_ok_iff.mp legal
  refine ⟨fresh, Region.isPlaced_of_isAligned aligned origin_eq, ?_, ?_, ?_⟩
  · intro notLinker
    exact .inl ((fits_iff origin_eq).mp (fits.resolve_left notLinker))
  · cases kind : given.kind with
    | bus => exact separate_of_requireDisjoint (decoded kind).2
    | io => exact separate_of_requireDisjoint (io kind)
    | linker =>
      intro entry _
      exact Region.not_overlaps_of_linker (.inr kind)
  · intro kind uncached
    refine inside_of_isUncacheable ((decoded kind).1.resolve_left ?_)
    rw [uncached]
    exact Bool.false_ne_true

theorem settled_of_place {placed : Region} (fresh : name ∉ bus.regionNames)
    (aligned : given.isAligned = true)
    (found : (Placement.place ⟨name, given.size, given.cached⟩ bus.addressWidth bus.windows
      bus.regions).result = .ok placed) : bus.Settled name { placed with mode := given.mode } := by
  obtain ⟨space, member, chosen, rfl, admits⟩ := Placement.place_sound found
  have power : Word.isPowerOfTwo given.size = true := (Bool.and_eq_true_iff.mp aligned).1
  have placed := Placement.candidate_isPlaced power admits.aligned
  have inside := (Region.inside_of_isWithin admits.within).1
  refine ⟨fresh, ⟨placed.origin, placed.power, placed.aligned⟩, ?_, admits.free, ?_⟩
  · intro _
    unfold Placement.spaces at member
    split at member
    · rw [List.mem_singleton] at member
      subst member
      refine .inl (Nat.le_of_lt (Nat.lt_of_lt_of_le inside.2 ?_))
      simp [Region.limit, Region.first, Region.fixed, addressLimit]
    · obtain ⟨window, listed, rfl⟩ := List.mem_map.mp member
      exact .inr ⟨window, listed, inside⟩
  · intro _ uncached
    change given.cached = false at uncached
    simp only [Placement.spaces, uncached, Bool.false_eq_true, if_false] at member
    obtain ⟨window, listed, rfl⟩ := List.mem_map.mp member
    exact ⟨window, listed, inside⟩

theorem settled_of_settle (settled : (bus.settle name given).result = .ok stored) :
    bus.Settled name stored ∧ stored.kind = given.kind := by
  obtain ⟨fresh, aligned, ⟨origin, origin_eq, rfl, legal⟩ | ⟨-, kind, placed, found, rfl⟩⟩ :=
    settle_ok_iff.mp settled
  · exact ⟨settled_of_legal fresh aligned origin_eq legal, rfl⟩
  · obtain ⟨-, -, chosen, rfl, -⟩ := Placement.place_sound found
    exact ⟨settled_of_place fresh aligned found, kind.symm⟩

theorem stored_of_settle (settled : (bus.settle name given).result = .ok stored)
    (placed : given.origin.isSome) : stored = given := by
  obtain ⟨-, -, ⟨_, _, same, -⟩ | ⟨unplaced, -⟩⟩ := settle_ok_iff.mp settled
  · exact same.symm
  · rw [unplaced] at placed
    contradiction

/-- A settled region is found under its name in the table of its kind once it is stored. -/
theorem Settled.get?_table_store (settled : bus.Settled name stored) :
    ((bus.store name stored).table stored.kind).get? name = some stored := by
  rw [RegionTable.get?, table_store_entries, if_pos rfl]
  apply Names.lookup_concat_of_isNone
  rw [Names.lookup_isNone_iff]
  exact fun member => settled.fresh (mem_regionNames stored.kind member)

theorem Settled.get?_store (settled : bus.Settled name stored) (kind : stored.kind = .bus) :
    (bus.store name stored).regions.get? name = some stored := by
  have found := settled.get?_table_store
  rw [kind] at found
  exact found

end SystemOnChip.Bus
