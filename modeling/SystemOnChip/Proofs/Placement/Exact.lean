import Mathlib.Data.List.Find
import SystemOnChip.Proofs.Bus.Acceptance
import SystemOnChip.Proofs.Call.Exact
import SystemOnChip.Proofs.Placement.Termination
import SystemOnChip.Proofs.Word.Exact

/-! Placement in exact arithmetic. Ends are integers here, so that no comparison is made with an
end that was cut to the largest word, and each operation on words has to have an exact result.
Among regions and in spaces that end within the word range, words do the same. -/
namespace SystemOnChip

namespace Region
variable {a b region inner outer : Region}

/-- The origin leaves no remainder by the size, which has to be a power of two. -/
def isAlignedExactly (region : Region) : Option Bool :=
  if Word.isPowerOfTwo region.size then
    match region.origin with
    | none => some true
    | some origin => (Word.mod? origin region.size).map (· == 0)
  else some false

/-- Neither region ends at or below the start of the other. -/
def overlapsExactly (a b : Region) : Bool :=
  a.kind.checksOverlap && b.kind.checksOverlap && a.origin.isSome && b.origin.isSome &&
    decide (a.first < b.limit) && decide (b.first < a.limit)

def isWithinExactly (inner outer : Region) : Bool :=
  inner.origin.isSome && outer.origin.isSome && decide (outer.first ≤ inner.first) &&
    decide (inner.limit < outer.limit)

theorem isAlignedExactly_eq : region.isAlignedExactly = some region.isAligned := by
  unfold isAlignedExactly isAligned
  split
  next power =>
    rw [power, Bool.true_and]
    cases region.origin with
    | none => rfl
    | some origin =>
      obtain ⟨k, size⟩ := Word.isPowerOfTwo_iff.mp power
      have nonzero : region.size ≠ 0 := by
        intro zero
        rw [zero] at size
        exact Nat.ne_of_lt (Nat.two_pow_pos k) size
      simp only [Word.mod?_eq_some nonzero, Option.map_some, Option.all_some]
  next other => rw [Bool.eq_false_iff.mpr other, Bool.false_and]

/-- Where ends fit a word, cutting them to it does not change whether regions overlap. -/
theorem overlapsExactly_eq (limitA : a.limit < UInt64.size) (limitB : b.limit < UInt64.size) :
    a.overlapsExactly b = a.overlaps b := by
  rw [Bool.eq_iff_iff, overlaps_iff_bounds, Nat.min_eq_left (Nat.le_sub_one_of_lt limitA),
    Nat.min_eq_left (Nat.le_sub_one_of_lt limitB)]
  simp [overlapsExactly, RegionKind.checksOverlap, and_assoc]

/-- Where the end of the outer region fits a word, cutting that of the inner one does not change
whether it is below. -/
theorem isWithinExactly_eq (limit : outer.limit < UInt64.size) :
    inner.isWithinExactly outer = inner.isWithin outer := by
  have below : inner.limit < outer.limit ↔
      min inner.limit (UInt64.size - 1) < min outer.limit (UInt64.size - 1) := by omega
  rw [Bool.eq_iff_iff, isWithin_iff_bounds, ← below]
  simp [isWithinExactly, and_assoc]

end Region

namespace Placement

/-- The first aligned origin behind the exact end of a region in the way. The end of the
candidate, which would stand in for that of a region without one, is computed too. -/
def behindExactly (request : Placement) (origin : UInt64) (region : Region) :
    Option (Option UInt64) := do
  let _ ← Word.add? origin request.size
  let limit ← Word.fit? region.limit
  Word.alignUpExactly limit request.size

theorem limit_le_of_behindExactly {request : Placement} {origin next : UInt64} {region : Region}
    (raised : request.behindExactly origin region = some (some next)) :
    region.limit ≤ next.toNat := by
  simp only [behindExactly, Option.bind_eq_bind, Option.bind_eq_some_iff] at raised
  obtain ⟨-, -, limit, ended, raised⟩ := raised
  have same := Word.fit?_eq_some_iff.mp ended
  have above := Word.le_of_alignUpExactly raised
  omega

/-- What is met ends above the candidate, and the candidate below the end of the space, so that
the search comes closer to it. -/
theorem closer_of_behindExactly {request : Placement} {placed : RegionTable} {space : Region}
    {origin next : UInt64} {entry : String × Region}
    (within : (request.candidate origin).isWithinExactly space = true)
    (met : placed.entries.find? (·.2.overlapsExactly (request.candidate origin)) = some entry)
    (raised : request.behindExactly origin entry.2 = some (some next)) :
    space.limit - next.toNat < space.limit - origin.toNat := by
  have overlap := List.find?_some met
  simp only [Region.overlapsExactly, Region.isWithinExactly, Bool.and_eq_true,
    decide_eq_true_eq] at overlap within
  have below : origin.toNat < entry.2.limit := overlap.2
  have inside : origin.toNat + request.size.toNat < space.limit := within.2
  have above := limit_le_of_behindExactly raised
  omega

def searchFromExactly (request : Placement) (placed : RegionTable) (space : Region)
    (origin : UInt64) : Option (Option Region) :=
  if within : (request.candidate origin).isWithinExactly space then
    match met : placed.entries.find? (·.2.overlapsExactly (request.candidate origin)) with
    | none => some (some (request.candidate origin))
    | some entry =>
      match raised : request.behindExactly origin entry.2 with
      | none => none
      | some none => some none
      | some (some next) =>
        have := closer_of_behindExactly within met raised
        searchFromExactly request placed space next
  else some none
termination_by space.limit - origin.toNat

def searchSpaceExactly (request : Placement) (placed : RegionTable) (space : Region) :
    Option (Option Region) :=
  match space.origin with
  | none => some none
  | some first => do
    match ← Word.alignUpExactly first request.size with
    | none => some none
    | some origin => request.searchFromExactly placed space origin

def searchSpacesExactly (request : Placement) (placed : RegionTable) :
    List Region → Option (Option Region)
  | [] => some none
  | space :: rest => do
    match ← request.searchSpaceExactly placed space with
    | some region => some (some region)
    | none => request.searchSpacesExactly placed rest

/-- The whole address space is computed also where only windows are searched. -/
def spacesExactly (request : Placement) (addressWidth : UInt32) (windows : RegionTable) :
    Option (List Region) := do
  let limit ← Word.shiftLeft? 1 addressWidth
  return if request.cached then [Region.fixed 0 limit] else windows.entries.map (·.2)

def placeExactly (request : Placement) (addressWidth : UInt32) (windows placed : RegionTable) :
    Verdict.Exact Region := do
  let spaces ← liftM (request.spacesExactly addressWidth windows)
  match ← liftM (request.searchSpacesExactly placed spaces) with
  | some region => pure region
  | none => throw (.insufficientAddressSpace request.name request.size request.cached)

section Search
variable {request : Placement} {placed windows : RegionTable} {space region : Region}
  {origin : UInt64} {addressWidth : UInt32}

/-- Behind a candidate that lies in the space, no operation is inexact. -/
theorem behindExactly_eq (power : ∃ k, request.size.toNat = 2 ^ k)
    (fits : (request.candidate origin).limit < UInt64.size) (bounded : region.IsBounded) :
    request.behindExactly origin region = some (request.behind? region) := by
  obtain ⟨span, given⟩ := Region.span?_isSome bounded.origin
  obtain ⟨-, -, limit⟩ := Region.span?_eq_some given
  rw [Nat.min_eq_left (Nat.le_sub_one_of_lt bounded.limit_lt)] at limit
  obtain ⟨k, power⟩ := power
  have ends : Word.add? origin request.size = some (origin + request.size) :=
    Word.add?_eq_some fits
  rw [behindExactly, ends, Word.fit?_eq_some_iff.mpr limit, behind?, given]
  exact Word.alignUpExactly_eq power

theorem find?_overlapsExactly (bounded : placed.IsBounded)
    (fits : (request.candidate origin).limit < UInt64.size) :
    placed.entries.find? (·.2.overlapsExactly (request.candidate origin)) =
      placed.entries.find? (·.2.overlaps (request.candidate origin)) := by
  refine List.find?_congr fun entry member => ?_
  exact Region.overlapsExactly_eq (bounded entry member).2.limit_lt fits

theorem searchFromExactly_outside
    (beyond : (request.candidate origin).isWithinExactly space = false) :
    request.searchFromExactly placed space origin = some none := by
  rw [searchFromExactly, dif_neg (Bool.eq_false_iff.mp beyond)]

theorem searchFromExactly_free
    (within : (request.candidate origin).isWithinExactly space = true)
    (clear : placed.entries.find? (·.2.overlapsExactly (request.candidate origin)) = none) :
    request.searchFromExactly placed space origin = some (some (request.candidate origin)) := by
  rw [searchFromExactly, dif_pos within]
  split
  next => rfl
  next entry met => cases clear.symm.trans met

theorem searchFromExactly_met {entry : String × Region} {next? : Option UInt64}
    (within : (request.candidate origin).isWithinExactly space = true)
    (met : placed.entries.find? (·.2.overlapsExactly (request.candidate origin)) = some entry)
    (raised : request.behindExactly origin entry.2 = some next?) :
    request.searchFromExactly placed space origin =
      next?.elim (some none) (request.searchFromExactly placed space) := by
  rw [searchFromExactly, dif_pos within]
  split
  next clear => cases clear.symm.trans met
  next other found =>
    cases found.symm.trans met
    split
    next stuck => cases stuck.symm.trans raised
    next last => cases last.symm.trans raised; rfl
    next next rises => cases rises.symm.trans raised; rfl

/-- A candidate in the space that is blocked is met by the same region, and the search goes on at
the same origin. -/
theorem met_of_blocker? (searchable : request.Searchable placed space) {name : String}
    {limit : UInt64} (within : (request.candidate origin).isWithin space = true)
    (blocked : blocker? placed (request.candidate origin) = some (name, limit)) :
    ∃ entry, placed.entries.find? (·.2.overlapsExactly (request.candidate origin)) = some entry ∧
      request.behindExactly origin entry.2 = some (Word.alignUp? limit request.size) := by
  have fits := (Region.inside_of_isWithin within).2
  obtain ⟨region, span, first, given, rfl⟩ := blocker?_eq_some_iff.mp blocked
  have bounded := (searchable.placed _ (List.mem_of_find?_eq_some first)).2
  refine ⟨_, (find?_overlapsExactly searchable.placed fits).trans first, ?_⟩
  rw [behindExactly_eq searchable.power fits bounded, behind?, given]
  rfl

/-- In a space that ends within the word range, the search in exact arithmetic takes the same
rounds to the same answer. -/
theorem searchFromExactly_eq (searchable : request.Searchable placed space) :
    request.searchFromExactly placed space origin =
      some (request.searchFrom placed space origin).1 := by
  have same (origin : UInt64) : (request.candidate origin).isWithinExactly space =
      (request.candidate origin).isWithin space :=
    Region.isWithinExactly_eq searchable.space.limit_lt
  -- Ends are compared only for candidates inside the space, whose own end is never cut.
  fun_induction searchFrom request placed space origin with
  | case1 origin candidate within clear =>
    have fits := (Region.inside_of_isWithin within).2
    refine searchFromExactly_free ((same origin).trans within) ?_
    rw [find?_overlapsExactly searchable.placed fits, List.find?_eq_none]
    simpa using free_of_blocker?_eq_none clear
  | case2 origin candidate within name limit blocked skip stuck =>
    obtain ⟨entry, met, raised⟩ := met_of_blocker? searchable within blocked
    rw [searchFromExactly_met ((same origin).trans within) met raised, stuck, Option.elim_none]
  | case3 origin candidate within name limit blocked skip next raised rises answer log found ih =>
    obtain ⟨entry, met, behind⟩ := met_of_blocker? searchable within blocked
    rw [found] at ih
    rw [searchFromExactly_met ((same origin).trans within) met behind, raised, Option.elim_some, ih]
  | case4 origin candidate outside =>
    exact searchFromExactly_outside ((same origin).trans (Bool.eq_false_iff.mpr outside))

theorem searchSpaceExactly_eq (searchable : request.Searchable placed space) :
    request.searchSpaceExactly placed space = some (request.searchSpace placed space).1 := by
  unfold searchSpaceExactly searchSpace Region.span?
  cases space.origin with
  | none => rfl
  | some first =>
    obtain ⟨k, power⟩ := searchable.power
    simp only [Word.alignUpExactly_eq power, Option.bind_eq_bind, Option.bind_some,
      Option.map_some]
    cases Word.alignUp? first request.size with
    | none => rfl
    | some origin => exact searchFromExactly_eq searchable

theorem searchSpacesExactly_eq {spaces : List Region}
    (searchable : ∀ space ∈ spaces, request.Searchable placed space) :
    request.searchSpacesExactly placed spaces = some (request.searchSpaces placed spaces).1 := by
  induction spaces with
  | nil => rfl
  | cons space rest ih =>
    have later := ih fun other member => searchable other (List.mem_cons_of_mem _ member)
    rw [searchSpacesExactly, searchSpaceExactly_eq (searchable space List.mem_cons_self),
      searchSpaces]
    obtain ⟨answer, log⟩ := request.searchSpace placed space
    cases answer with
    | some region => rfl
    | none => exact later

theorem spacesExactly_eq (narrow : addressWidth.toNat < 64) :
    request.spacesExactly addressWidth windows = some (request.spaces addressWidth windows) := by
  rw [spacesExactly, Word.shiftLeft?_one narrow]
  rfl

theorem place_computedBy (narrow : addressWidth.toNat < 64)
    (searchable : ∀ space ∈ request.spaces addressWidth windows,
      request.Searchable placed space) :
    (request.place addressWidth windows placed).ComputedBy
      (request.placeExactly addressWidth windows placed) := by
  rw [Verdict.ComputedBy, placeExactly, spacesExactly_eq narrow]
  change ExceptT.run (liftM (request.searchSpacesExactly placed _) >>= _) = _
  rw [searchSpacesExactly_eq searchable, result_place]
  cases (request.searchSpaces placed (request.spaces addressWidth windows)).1 <;> rfl

end Search

end Placement

end SystemOnChip
