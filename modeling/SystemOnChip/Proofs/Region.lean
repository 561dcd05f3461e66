import SystemOnChip.Proofs.Names
import SystemOnChip.Proofs.Sorting
import SystemOnChip.Proofs.Word
import SystemOnChip.Region.Table

/-! Regions as sets of byte addresses. Addresses are natural numbers here, so
that an end is never cut to the largest word. -/
namespace SystemOnChip

namespace Region

/-- The address of the first byte of a placed region. -/
def first (region : Region) : Nat := (region.origin.getD 0).toNat

/-- The address behind the last byte of a placed region. -/
def limit (region : Region) : Nat := region.first + region.size.toNat

def Covers (region : Region) (address : Nat) : Prop :=
  region.origin.isSome ∧ region.first ≤ address ∧ address < region.limit

instance (region : Region) (address : Nat) : Decidable (region.Covers address) :=
  inferInstanceAs (Decidable (_ ∧ _ ∧ _))

/-- The two regions share no byte. -/
def Apart (a b : Region) : Prop := ∀ address, ¬ (a.Covers address ∧ b.Covers address)

/-- The two regions share a byte. -/
def Meets (a b : Region) : Prop := ∃ address, a.Covers address ∧ b.Covers address

/-- The inner region starts in the outer one and ends below its end. -/
def Inside (inner outer : Region) : Prop :=
  outer.first ≤ inner.first ∧ inner.limit < outer.limit

/-- The region has an origin and at least one byte, and ends within the word range. -/
structure IsBounded (region : Region) : Prop where
  origin : region.origin.isSome
  size_pos : 0 < region.size.toNat
  limit_lt : region.limit < UInt64.size

/-- The region has an origin, which is a multiple of its size, a power of two. -/
structure IsPlaced (region : Region) : Prop where
  origin : region.origin.isSome
  power : ∃ k, region.size.toNat = 2 ^ k
  aligned : region.size.toNat ∣ region.first

variable {a b region inner outer : Region}

theorem IsPlaced.size_pos (placed : region.IsPlaced) : 0 < region.size.toNat := by
  obtain ⟨k, power⟩ := placed.power
  rw [power]
  exact Nat.two_pow_pos k

/-- An aligned region covers the addresses with the quotient of its first one. -/
theorem IsPlaced.covers_iff (placed : region.IsPlaced) {address : Nat} :
    region.Covers address ↔ address / region.size.toNat = region.first / region.size.toNat := by
  rw [Word.div_eq_iff_of_dvd placed.size_pos placed.aligned]
  simp only [Covers, limit, placed.origin, true_and]

theorem IsPlaced.covers_first (placed : region.IsPlaced) : region.Covers region.first :=
  placed.covers_iff.mpr rfl

theorem Apart.symm (apart : a.Apart b) : b.Apart a := fun address both => apart address both.symm

theorem not_meets_iff : ¬ a.Meets b ↔ a.Apart b := not_exists

theorem IsPlaced.bounded (placed : region.IsPlaced) (ends : region.limit < UInt64.size) :
    region.IsBounded :=
  ⟨placed.origin, placed.size_pos, ends⟩

theorem isAligned_iff : region.isAligned = true ↔
    (∃ k, region.size.toNat = 2 ^ k) ∧ ∀ origin, region.origin = some origin →
      region.size.toNat ∣ origin.toNat := by
  rw [isAligned, Bool.and_eq_true, Word.isPowerOfTwo_iff]
  cases region.origin <;> simp [Word.mod_eq_zero_iff]

theorem isPlaced_of_isAligned {origin : UInt64} (aligned : region.isAligned = true)
    (given : region.origin = some origin) : region.IsPlaced := by
  obtain ⟨power, multiple⟩ := isAligned_iff.mp aligned
  refine ⟨by rw [given]; rfl, power, ?_⟩
  rw [first, given]
  exact multiple origin given

theorem span?_eq_some {span : Span} (h : region.span? = some span) :
    region.origin.isSome ∧ span.first.toNat = region.first ∧
      span.limit.toNat = min region.limit (UInt64.size - 1) := by
  simp only [span?, Option.map_eq_some_iff] at h
  obtain ⟨origin, given, rfl⟩ := h
  simp only [given, Option.isSome_some, first, limit, Option.getD_some,
    Word.toNat_saturatingAdd, and_self]

theorem span?_isSome (given : region.origin.isSome) : ∃ span, region.span? = some span := by
  obtain ⟨origin, given⟩ := Option.isSome_iff_exists.mp given
  exact ⟨_, by rw [span?, given]; rfl⟩

/-- The bounds that are compared for containment are cut to the largest word. -/
theorem isWithin_iff_bounds : inner.isWithin outer = true ↔
    inner.origin.isSome ∧ outer.origin.isSome ∧ outer.first ≤ inner.first ∧
      min inner.limit (UInt64.size - 1) < min outer.limit (UInt64.size - 1) := by
  rw [isWithin_iff]
  constructor
  · rintro ⟨s, t, hs, ht, within⟩
    obtain ⟨placedInner, firstInner, limitInner⟩ := span?_eq_some hs
    obtain ⟨placedOuter, firstOuter, limitOuter⟩ := span?_eq_some ht
    simp only [Span.isWithin, Bool.and_eq_true, decide_eq_true_eq, UInt64.le_iff_toNat_le,
      UInt64.lt_iff_toNat_lt, firstInner, firstOuter, limitInner, limitOuter] at within
    exact ⟨placedInner, placedOuter, within⟩
  · rintro ⟨placedInner, placedOuter, within⟩
    obtain ⟨s, hs⟩ := span?_isSome placedInner
    obtain ⟨t, ht⟩ := span?_isSome placedOuter
    obtain ⟨-, firstInner, limitInner⟩ := span?_eq_some hs
    obtain ⟨-, firstOuter, limitOuter⟩ := span?_eq_some ht
    refine ⟨s, t, hs, ht, ?_⟩
    simpa only [Span.isWithin, Bool.and_eq_true, decide_eq_true_eq, UInt64.le_iff_toNat_le,
      UInt64.lt_iff_toNat_lt, firstInner, firstOuter, limitInner, limitOuter] using within

/-- The bounds that are compared for overlap are cut to the largest word. -/
theorem overlaps_iff_bounds : a.overlaps b = true ↔
    a.kind ≠ .linker ∧ b.kind ≠ .linker ∧ a.origin.isSome ∧ b.origin.isSome ∧
      a.first < min b.limit (UInt64.size - 1) ∧ b.first < min a.limit (UInt64.size - 1) := by
  rw [overlaps_iff, RegionKind.checksOverlap, RegionKind.checksOverlap, bne_iff_ne, bne_iff_ne]
  refine and_congr_right fun _ => and_congr_right fun _ => ?_
  constructor
  · rintro ⟨s, t, hs, ht, meet⟩
    obtain ⟨placedA, firstA, limitA⟩ := span?_eq_some hs
    obtain ⟨placedB, firstB, limitB⟩ := span?_eq_some ht
    simp only [Span.overlaps, Bool.and_eq_true, decide_eq_true_eq, UInt64.lt_iff_toNat_lt, firstA,
      limitA, firstB, limitB] at meet
    exact ⟨placedA, placedB, meet⟩
  · rintro ⟨placedA, placedB, meet⟩
    obtain ⟨s, hs⟩ := span?_isSome placedA
    obtain ⟨t, ht⟩ := span?_isSome placedB
    obtain ⟨-, firstA, limitA⟩ := span?_eq_some hs
    obtain ⟨-, firstB, limitB⟩ := span?_eq_some ht
    refine ⟨s, t, hs, ht, ?_⟩
    simpa only [Span.overlaps, Bool.and_eq_true, decide_eq_true_eq, UInt64.lt_iff_toNat_lt, firstA,
      limitA, firstB, limitB] using meet

/-- The last word is never the end of a region inside another one, so the ends
compared are true ones. -/
theorem inside_of_isWithin (within : inner.isWithin outer = true) :
    inner.Inside outer ∧ inner.limit < UInt64.size := by
  obtain ⟨-, -, first, limit⟩ := isWithin_iff_bounds.mp within
  unfold Inside
  omega

theorem isWithin_of_inside (inside : inner.Inside outer) (placedInner : inner.origin.isSome)
    (placedOuter : outer.origin.isSome) (ends : outer.limit < UInt64.size) :
    inner.isWithin outer = true := by
  obtain ⟨first, limit⟩ := inside
  refine isWithin_iff_bounds.mpr ⟨placedInner, placedOuter, first, ?_⟩
  omega

theorem overlaps_comm : a.overlaps b = b.overlaps a := by
  unfold overlaps
  cases a.span? <;> cases b.span? <;> simp only [Span.overlaps, Bool.and_comm]

theorem not_overlaps_of_linker (software : a.kind = .linker ∨ b.kind = .linker) :
    a.overlaps b = false := by
  rcases software with kind | kind <;> simp [overlaps, kind, RegionKind.checksOverlap]

/-- Regions that overlap share a byte if each of them has one. -/
theorem meets_of_overlaps (meets : a.overlaps b = true) (sizeA : 0 < a.size.toNat)
    (sizeB : 0 < b.size.toNat) : a.Meets b := by
  obtain ⟨-, -, placedA, placedB, below, above⟩ := overlaps_iff_bounds.mp meets
  unfold limit at below above
  refine ⟨max a.first b.first, ⟨placedA, ?_⟩, placedB, ?_⟩ <;> unfold limit <;> omega

/-- The overlap test tells whether two regions share a byte, unless one of them
is for software only. -/
theorem IsBounded.overlaps_iff_meets (boundedA : a.IsBounded) (boundedB : b.IsBounded) :
    a.overlaps b = true ↔ a.kind ≠ .linker ∧ b.kind ≠ .linker ∧ a.Meets b := by
  constructor
  · intro meets
    obtain ⟨kindA, kindB, -⟩ := overlaps_iff_bounds.mp meets
    exact ⟨kindA, kindB, meets_of_overlaps meets boundedA.size_pos boundedB.size_pos⟩
  · rintro ⟨kindA, kindB, address, ⟨placedA, firstA, limitA⟩, placedB, firstB, limitB⟩
    have endA := boundedA.limit_lt
    have endB := boundedB.limit_lt
    refine overlaps_iff_bounds.mpr ⟨kindA, kindB, placedA, placedB, ?_, ?_⟩ <;> omega

/-- Regions that do not overlap share no byte, where neither is for software only. -/
theorem IsBounded.apart_of_not_overlaps (boundedA : a.IsBounded) (boundedB : b.IsBounded)
    (kindA : a.kind ≠ .linker) (kindB : b.kind ≠ .linker) (separate : a.overlaps b = false) :
    a.Apart b := by
  refine not_meets_iff.mp fun meets => Bool.eq_false_iff.mp separate ?_
  exact (boundedA.overlaps_iff_meets boundedB).mpr ⟨kindA, kindB, meets⟩

theorem not_overlaps_of_apart (apart : a.Apart b) (placedA : a.IsPlaced) (placedB : b.IsPlaced) :
    a.overlaps b = false := by
  rw [Bool.eq_false_iff]
  intro meets
  exact not_meets_iff.mpr apart (meets_of_overlaps meets placedA.size_pos placedB.size_pos)

end Region

/-- No overlap is found exactly where no region overlaps a later one. -/
theorem findOverlap_eq_none_iff {entries : List (String × Region)} :
    findOverlap entries = none ↔ entries.Pairwise fun a b => a.2.overlaps b.2 = false := by
  induction entries with
  | nil => simp [findOverlap]
  | cons entry rest ih =>
    obtain ⟨name, region⟩ := entry
    rw [findOverlap, List.pairwise_cons]
    cases found : rest.find? fun other => region.overlaps other.2 with
    | some other =>
      have member := List.mem_of_find?_eq_some found
      have meets := List.find?_some found
      simp only [reduceCtorEq, false_iff, not_and]
      intro separate
      rw [separate other member] at meets
      contradiction
    | none =>
      rw [List.find?_eq_none] at found
      simp only [ih, Bool.not_eq_true] at found ⊢
      exact ⟨fun rest => ⟨found, rest⟩, fun both => both.2⟩

namespace RegionTable

/-- The list has the entries of the table, the ones with lower origins first. -/
structure ListsByOrigin (table : RegionTable) (listed : List (String × Region)) : Prop where
  entries : listed.Perm table.entries
  ascending : listed.Pairwise fun a b => a.2.first ≤ b.2.first

variable {table : RegionTable} {name other : String} {region : Region}

theorem contains_iff : table.contains name = true ↔ name ∈ table.entries.map (·.1) :=
  Names.lookup_isSome_iff

theorem get?_push : (table.push name region).get? other =
    (table.get? other).or (if other = name then some region else none) := by
  rw [get?, push, List.lookup_append, NameMap.lookup_cons, List.lookup_nil, get?]

theorem get?_push_of_some {found : Region} (h : table.get? other = some found) :
    (table.push name region).get? other = some found := by
  rw [get?_push, h, Option.some_or]

theorem originAtMost_trans (a b c : Option UInt64) (below : originAtMost a b = true)
    (above : originAtMost b c = true) : originAtMost a c = true := by
  cases a <;> cases b <;> cases c <;>
    simp_all only [originAtMost, decide_eq_true_eq, Bool.false_eq_true]
  exact UInt64.le_trans below above

theorem originAtMost_total (a b : Option UInt64) :
    (originAtMost a b || originAtMost b a) = true := by
  cases a <;> cases b <;> simp [originAtMost, UInt64.le_total]

theorem first_le_of_originAtMost {a b : Region} (below : originAtMost a.origin b.origin = true) :
    a.first ≤ b.first := by
  rw [Region.first, Region.first]
  revert below
  cases a.origin <;> cases b.origin <;> simp [originAtMost, UInt64.le_iff_toNat_le]

theorem listsByOrigin_byOrigin (table : RegionTable) : table.ListsByOrigin table.byOrigin where
  entries := List.mergeSort_perm _ _
  ascending := by
    refine List.Pairwise.imp (fun below => first_le_of_originAtMost below) ?_
    exact List.pairwise_mergeSort
      (fun a b c => originAtMost_trans a.2.origin b.2.origin c.2.origin)
      (fun a b => originAtMost_total a.2.origin b.2.origin) table.entries

theorem ListsByOrigin.unique {listed again : List (String × Region)}
    (lists : table.ListsByOrigin listed) (second : table.ListsByOrigin again)
    (distinct : ∀ a ∈ table.entries, ∀ b ∈ table.entries, a.2.first = b.2.first → a = b) :
    listed = again := by
  refine List.Perm.eq_of_pairwise (fun a b memberA memberB below above => ?_) lists.ascending
    second.ascending (lists.entries.trans second.entries.symm)
  exact distinct a (lists.entries.mem_iff.mp memberA) b (second.entries.mem_iff.mp memberB)
    (Nat.le_antisymm below above)

/-- The order by origin does not depend on the order of declaration, where no
two entries have one origin. -/
theorem byOrigin_eq_of_perm {first second : RegionTable}
    (perm : first.entries.Perm second.entries)
    (distinct : ∀ a ∈ first.entries, ∀ b ∈ first.entries, a.2.first = b.2.first → a = b) :
    first.byOrigin = second.byOrigin := by
  obtain ⟨entries, ascending⟩ := listsByOrigin_byOrigin second
  exact (listsByOrigin_byOrigin first).unique ⟨entries.trans perm.symm, ascending⟩ distinct

end RegionTable

end SystemOnChip
