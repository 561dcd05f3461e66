import SystemOnChip.Placement
import SystemOnChip.Proofs.Region

/-! Every region that a search answers is aligned, free and inside a space. -/
namespace SystemOnChip.Placement

/-- The requested region can be placed at an origin in a space. -/
structure Admits (request : Placement) (placed : RegionTable) (space : Region) (origin : UInt64) :
    Prop where
  aligned : request.size.toNat ∣ origin.toNat
  within : (request.candidate origin).isWithin space = true
  free : ∀ entry ∈ placed.entries, entry.2.overlaps (request.candidate origin) = false

variable {request : Placement} {placed windows : RegionTable} {space region : Region}
  {origin : UInt64}

theorem candidate_isPlaced (power : Word.isPowerOfTwo request.size = true)
    (aligned : request.size.toNat ∣ origin.toNat) : (request.candidate origin).IsPlaced where
  origin := rfl
  power := Word.isPowerOfTwo_iff.mp power
  aligned := aligned

/-- Without a blocker nothing overlaps the candidate: what overlaps has an end. -/
theorem free_of_blocker?_eq_none {candidate : Region} (h : blocker? placed candidate = none) :
    ∀ entry ∈ placed.entries, entry.2.overlaps candidate = false := by
  intro entry member
  have passed := List.findSome?_eq_none_iff.mp h entry member
  rw [Bool.eq_false_iff]
  intro meets
  obtain ⟨-, -, span, -, ends, -⟩ := Region.overlaps_iff.mp meets
  simp only [meets, if_true, ends, Option.map_some, reduceCtorEq] at passed

/-- The search moves from one aligned origin to the next. -/
theorem searchFrom_sound (aligned : request.size.toNat ∣ origin.toNat)
    (found : (request.searchFrom placed space origin).1 = some region) :
    ∃ chosen, region = request.candidate chosen ∧ request.Admits placed space chosen := by
  fun_induction searchFrom request placed space origin with
  | case1 origin candidate within clear =>
    exact ⟨origin, (Option.some.inj found).symm, aligned, within, free_of_blocker?_eq_none clear⟩
  | case2 | case4 => contradiction
  | case3 origin candidate within blocker limit blocked skip next raised rises answer log same ih =>
    rw [same] at ih
    exact ih (Word.dvd_alignUp? raised) found

theorem searchSpace_sound (found : (request.searchSpace placed space).1 = some region) :
    ∃ chosen, region = request.candidate chosen ∧ request.Admits placed space chosen := by
  unfold searchSpace at found
  split at found
  · contradiction
  next start =>
    obtain ⟨span, -, raised⟩ := Option.bind_eq_some_iff.mp start
    exact searchFrom_sound (Word.dvd_alignUp? raised) found

theorem searchSpaces_eq_findSome? {spaces : List Region} :
    (request.searchSpaces placed spaces).1 =
      spaces.findSome? fun space => (request.searchSpace placed space).1 := by
  induction spaces with
  | nil => rfl
  | cons head rest ih =>
    rw [searchSpaces, List.findSome?_cons]
    obtain ⟨answer, log⟩ := request.searchSpace placed head
    cases answer with
    | some region => rfl
    | none => exact ih

theorem searchSpaces_sound {spaces : List Region}
    (found : (request.searchSpaces placed spaces).1 = some region) :
    ∃ space ∈ spaces, ∃ chosen, region = request.candidate chosen ∧
      request.Admits placed space chosen := by
  rw [searchSpaces_eq_findSome?] at found
  obtain ⟨space, member, here⟩ := List.exists_of_findSome?_eq_some found
  exact ⟨space, member, searchSpace_sound here⟩

theorem result_place {addressWidth : UInt32} :
    (request.place addressWidth windows placed).result =
      match (request.searchSpaces placed (request.spaces addressWidth windows)).1 with
      | some region => .ok region
      | none =>
        .error (.insufficientAddressSpace request.name request.size request.cached) := by
  simp only [place]
  cases (request.searchSpaces placed (request.spaces addressWidth windows)).1 <;> rfl

/-- A search fails for one reason only. -/
theorem fault_of_place {addressWidth : UInt32} {fault : Fault}
    (failed : (request.place addressWidth windows placed).result = .error fault) :
    fault = .insufficientAddressSpace request.name request.size request.cached := by
  rw [result_place] at failed
  split at failed <;> cases failed
  rfl

theorem place_sound {addressWidth : UInt32}
    (found : (request.place addressWidth windows placed).result = .ok region) :
    ∃ space ∈ request.spaces addressWidth windows, ∃ chosen,
      region = request.candidate chosen ∧ request.Admits placed space chosen := by
  rw [result_place] at found
  split at found
  next answer =>
    cases found
    exact searchSpaces_sound answer
  next => contradiction

end SystemOnChip.Placement
