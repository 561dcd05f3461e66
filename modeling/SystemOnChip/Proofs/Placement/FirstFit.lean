import Mathlib.Order.Bounds.Basic
import SystemOnChip.Proofs.Placement

/-! First fit by exhaustion. Which addresses of a search space have room for a region is
told here byte by byte, without a search. The search skips whatever is in the way of a
candidate, yet answers the least address with room in the first space that has one. -/
namespace SystemOnChip

/-- Addresses from the first one up to the limit, which is not among them. -/
structure Extent where
  first : Nat
  limit : Nat
deriving DecidableEq

def Region.extent (region : Region) : Extent := ⟨region.first, region.limit⟩

/-- A region of this size has room at an origin: it is aligned, starts in the extent and ends
below its limit, and none of its bytes is taken. -/
structure RegionTable.HasRoom (placed : RegionTable) (space : Extent) (size origin : Nat) :
    Prop where
  aligned : size ∣ origin
  first : space.first ≤ origin
  limit : origin + size < space.limit
  free : ∀ entry ∈ placed.entries, ∀ address, origin ≤ address → address < origin + size →
    ¬ entry.2.Covers address

/-- Every region of the table is decoded or a window, and ends within the word range. -/
def RegionTable.IsBounded (table : RegionTable) : Prop :=
  ∀ entry ∈ table.entries, entry.2.kind ≠ .linker ∧ entry.2.IsBounded

namespace Placement

/-- The extents that are searched, in their order: the whole address space, or the io
windows as they were declared. -/
def extents (request : Placement) (addressWidth : UInt32) (windows : RegionTable) : List Extent :=
  if request.cached then [⟨0, 2 ^ addressWidth.toNat⟩]
  else windows.entries.map (·.2.extent)

def room (request : Placement) (placed : RegionTable) (space : Extent) : Set Nat :=
  {origin | placed.HasRoom space request.size.toNat origin}

/-- The right answer of a search in one extent: the requested region at the least origin
with room, or none if there is no room. -/
def Answers (request : Placement) (placed : RegionTable) (space : Extent) :
    Option Region → Prop
  | some region => ∃ origin : UInt64, IsLeast (request.room placed space) origin.toNat ∧
      region = { origin := some origin, size := request.size, mode := .readWrite,
                 cached := request.cached, kind := .bus }
  | none => request.room placed space = ∅

/-- The right answer over several extents: that of the first one with room. -/
def IsFirstFit (request : Placement) (placed : RegionTable) (spaces : List Extent)
    (region : Region) : Prop :=
  ∃ before space after, spaces = before ++ space :: after ∧
    (∀ earlier ∈ before, request.Answers placed earlier none) ∧
    request.Answers placed space (some region)

/-- Sizes are powers of two, and no end that is compared lies beyond the largest word. -/
structure Searchable (request : Placement) (placed : RegionTable) (space : Region) : Prop where
  power : ∃ k, request.size.toNat = 2 ^ k
  placed : placed.IsBounded
  space : space.IsBounded

variable {request : Placement} {placed windows : RegionTable} {space region : Region}
  {origin : UInt64} {other : Nat}

namespace Searchable

theorem size_pos (searchable : request.Searchable placed space) : 0 < request.size.toNat := by
  obtain ⟨k, power⟩ := searchable.power
  rw [power]
  exact Nat.two_pow_pos k

theorem lt_of_room (searchable : request.Searchable placed space)
    (room : other ∈ request.room placed space.extent) : other < UInt64.size := by
  have ends : space.limit < UInt64.size := searchable.space.limit_lt
  have inside : other + request.size.toNat < space.limit := room.limit
  omega

theorem room_of_admits (searchable : request.Searchable placed space)
    (admits : request.Admits placed space origin) :
    origin.toNat ∈ request.room placed space.extent := by
  obtain ⟨inside, ends⟩ := Region.inside_of_isWithin admits.within
  have own : (request.candidate origin).IsBounded := ⟨rfl, searchable.size_pos, ends⟩
  have decoded : RegionKind.bus ≠ .linker := by decide
  refine ⟨admits.aligned, inside.1, inside.2, fun entry member address above below covered => ?_⟩
  obtain ⟨kind, bounded⟩ := searchable.placed entry member
  have apart := bounded.apart_of_not_overlaps own kind decoded (admits.free entry member)
  exact apart address ⟨covered, rfl, above, below⟩

theorem limit_le_of_blocker (searchable : request.Searchable placed space) {name : String}
    {limit : UInt64} (blocked : blocker? placed (request.candidate origin) = some (name, limit))
    (room : other ∈ request.room placed space.extent) (above : origin.toNat ≤ other) :
    limit.toNat ≤ other := by
  obtain ⟨entry, member, found⟩ := List.exists_of_findSome?_eq_some blocked
  simp only [Option.ite_none_right_eq_some, Option.map_eq_some_iff, Prod.mk.injEq] at found
  obtain ⟨overlap, span, given, -, rfl⟩ := found
  obtain ⟨-, bounded⟩ := searchable.placed entry member
  have ends : span.limit.toNat = entry.2.limit := by
    rw [(Region.span?_eq_some given).2.2]
    have := bounded.limit_lt
    omega
  have size := searchable.size_pos
  obtain ⟨address, ⟨-, first, -⟩, -, -, last⟩ :=
    Region.meets_of_overlaps overlap bounded.size_pos size
  have begins : entry.2.first < origin.toNat + request.size.toNat := Nat.lt_of_le_of_lt first last
  rw [ends]
  -- otherwise a region at the later origin would share its first byte behind both beginnings
  refine Nat.le_of_not_lt fun early => ?_
  have bytes : entry.2.first < entry.2.limit := Nat.lt_add_of_pos_right bounded.size_pos
  refine room.free entry member (max other entry.2.first) (Nat.le_max_left _ _) ?_
    ⟨bounded.origin, Nat.le_max_right _ _, Nat.max_lt.mpr ⟨early, bytes⟩⟩
  omega

/-- From an aligned origin below which there is no room, the search answers rightly. -/
theorem searchFrom_answers (searchable : request.Searchable placed space)
    (aligned : request.size.toNat ∣ origin.toNat) (start : space.first ≤ origin.toNat)
    (least : ∀ other ∈ request.room placed space.extent, origin.toNat ≤ other) :
    request.Answers placed space.extent (request.searchFrom placed space origin).1 := by
  obtain ⟨k, power⟩ := searchable.power
  fun_induction searchFrom request placed space origin with
  | case1 origin candidate within clear =>
    have admits : request.Admits placed space origin :=
      ⟨aligned, within, free_of_blocker?_eq_none clear⟩
    exact ⟨origin, ⟨searchable.room_of_admits admits, least⟩, rfl⟩
  | case2 origin candidate within blocker limit blocked skip stuck =>
    refine Set.eq_empty_of_forall_notMem fun other room => ?_
    have beyond := searchable.limit_le_of_blocker blocked room (least other room)
    obtain ⟨next, raised, -⟩ :=
      Word.alignUp?_le_of_dvd power room.aligned beyond (searchable.lt_of_room room)
    rw [stuck] at raised
    contradiction
  | case3 origin candidate within blocker limit blocked skip next raised rises answer log same ih =>
    rw [same] at ih
    refine ih (Word.dvd_alignUp? raised) (by omega) fun other room => ?_
    have beyond := searchable.limit_le_of_blocker blocked room (least other room)
    obtain ⟨again, found, below⟩ :=
      Word.alignUp?_le_of_dvd power room.aligned beyond (searchable.lt_of_room room)
    cases raised.symm.trans found
    exact below
  | case4 origin candidate outside =>
    refine Set.eq_empty_of_forall_notMem fun other room => ?_
    have low := least other room
    have inside : other + request.size.toNat < space.limit := room.limit
    refine outside (Region.isWithin_of_inside ⟨start, ?_⟩ rfl searchable.space.origin
      searchable.space.limit_lt)
    change origin.toNat + request.size.toNat < space.limit
    omega

theorem searchSpace_answers (searchable : request.Searchable placed space) :
    request.Answers placed space.extent (request.searchSpace placed space).1 := by
  obtain ⟨k, power⟩ := searchable.power
  obtain ⟨span, given⟩ := Region.span?_isSome searchable.space.origin
  have first := (Region.span?_eq_some given).2.1
  have raised {other : Nat} (room : other ∈ request.room placed space.extent) :=
    Word.alignUp?_le_of_dvd power room.aligned (first.trans_le room.first)
      (searchable.lt_of_room room)
  unfold searchSpace
  rw [given]
  split
  next stuck =>
    refine Set.eq_empty_of_forall_notMem fun other room => ?_
    obtain ⟨next, found, -⟩ := raised room
    change Word.alignUp? span.first request.size = none at stuck
    rw [stuck] at found
    contradiction
  next start found =>
    change Word.alignUp? span.first request.size = some start at found
    refine searchable.searchFrom_answers (Word.dvd_alignUp? found) ?_ fun other room => ?_
    · exact first.symm.trans_le (Word.le_alignUp? found)
    · obtain ⟨next, again, below⟩ := raised room
      cases found.symm.trans again
      exact below

end Searchable

theorem Answers.unique {space : Extent} {first second : Option Region}
    (one : request.Answers placed space first) (two : request.Answers placed space second) :
    first = second := by
  cases first with
  | none =>
    cases second with
    | none => rfl
    | some region =>
      obtain ⟨origin, least, -⟩ := two
      exact absurd least.1 (Set.eq_empty_iff_forall_notMem.mp one _)
  | some region =>
    obtain ⟨origin, least, rfl⟩ := one
    cases second with
    | none => exact absurd least.1 (Set.eq_empty_iff_forall_notMem.mp two _)
    | some other =>
      obtain ⟨again, same, rfl⟩ := two
      rw [UInt64.toNat_inj.mp (least.unique same)]

theorem Searchable.searchSpace_iff (searchable : request.Searchable placed space)
    {answer : Option Region} :
    (request.searchSpace placed space).1 = answer ↔ request.Answers placed space.extent answer := by
  constructor
  · rintro rfl
    exact searchable.searchSpace_answers
  · exact searchable.searchSpace_answers.unique

theorem searchSpaces_some_iff {spaces : List Region}
    (searchable : ∀ space ∈ spaces, request.Searchable placed space) :
    (request.searchSpaces placed spaces).1 = some region ↔
      request.IsFirstFit placed (spaces.map Region.extent) region := by
  have answers {space : Region} (member : space ∈ spaces) {answer : Option Region} :
      (request.searchSpace placed space).1 = answer ↔
        request.Answers placed space.extent answer :=
    (searchable space member).searchSpace_iff
  rw [searchSpaces_eq_findSome?, List.findSome?_eq_some_iff]
  constructor
  · rintro ⟨before, space, after, rfl, found, passed⟩
    refine ⟨before.map Region.extent, space.extent, after.map Region.extent, by simp, ?_, ?_⟩
    · rw [List.forall_mem_map]
      intro earlier member
      exact (answers (by simp [member])).mp (passed earlier member)
    · exact (answers (by simp)).mp found
  · rintro ⟨before, extent, after, same, passed, found⟩
    obtain ⟨earlier, others, rfl, rfl, rest⟩ := List.map_eq_append_iff.mp same
    obtain ⟨space, later, rfl, rfl, rfl⟩ := List.map_eq_cons_iff.mp rest
    refine ⟨earlier, space, later, rfl, (answers (by simp)).mpr found, fun other member => ?_⟩
    exact (answers (by simp [member])).mpr (passed _ (List.mem_map_of_mem member))

theorem searchSpaces_none_iff {spaces : List Region}
    (searchable : ∀ space ∈ spaces, request.Searchable placed space) :
    (request.searchSpaces placed spaces).1 = none ↔
      ∀ extent ∈ spaces.map Region.extent, request.room placed extent = ∅ := by
  rw [searchSpaces_eq_findSome?, List.findSome?_eq_none_iff, List.forall_mem_map]
  exact forall₂_congr fun space member => (searchable space member).searchSpace_iff

end Placement

end SystemOnChip
