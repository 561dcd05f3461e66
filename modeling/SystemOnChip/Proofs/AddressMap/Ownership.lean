import Mathlib.Data.List.Nodup
import SystemOnChip.Proofs.AddressMap.Pages
import SystemOnChip.Proofs.Call.Transcript

/-! Whom a page of registers belongs to. The name of its location may read as a memory of
several components, as all names may have underscores of their own. The component with the
shortest name takes it, in whatever order the components were added. -/
namespace SystemOnChip

namespace Soc

/-- The name of a location reads as a memory that a component has. -/
structure HasMemory (peripherals : NameMap Peripheral) (location component memory : String) :
    Prop where
  listed : ∃ peripheral, peripherals.get? component = some peripheral ∧
    memory ∈ peripheral.memories
  spelled : location = component ++ "_" ++ memory

/-- A location belongs to the component with the shortest name of those that have such a
memory, and is a bank of its own if there is none. -/
inductive Owns (peripherals : NameMap Peripheral) (location : String) : CsrOwner → Prop where
  | memory {component memory} (held : HasMemory peripherals location component memory)
      (shortest : ∀ other piece, HasMemory peripherals location other piece →
        other = component ∧ piece = memory ∨ component.length < other.length) :
      Owns peripherals location (.memory component memory)
  | bank (none : ∀ component memory, ¬ HasMemory peripherals location component memory) :
      Owns peripherals location (.bank location)

variable {peripherals : NameMap Peripheral} {location component memory other piece : String}

namespace HasMemory

theorem starts (held : HasMemory peripherals location component memory) :
    component.toList <+: location.toList := by
  rw [held.spelled, String.toList_append, String.toList_append, List.append_assoc]
  exact List.prefix_append _ _

theorem memory_eq (held : HasMemory peripherals location component memory)
    (again : HasMemory peripherals location component piece) : piece = memory := by
  have same := again.spelled.symm.trans held.spelled
  rwa [String.append_right_inj] at same

theorem length_lt (held : HasMemory peripherals location component memory)
    (again : HasMemory peripherals location other piece) (below : component < other) :
    component.length < other.length := by
  rw [← Nat.not_le]
  intro shorter
  -- both names start the location, so that the shorter one starts the other
  have starts := List.prefix_of_prefix_length_le again.starts held.starts shorter
  exact starts.le (String.lt_iff.mp below)

end HasMemory

theorem find?_memory_eq_some_iff {memories : List String} :
    (memories.find? fun memory => Csr.locationName component (some memory) == location) =
        some memory ↔ memory ∈ memories ∧ location = component ++ "_" ++ memory := by
  have spelled_of_found {piece : String} (found : (memories.find? fun memory =>
      Csr.locationName component (some memory) == location) = some piece) :
      location = component ++ "_" ++ piece := by
    have named := List.find?_some found
    rw [beq_iff_eq] at named
    exact named.symm
  constructor
  · intro found
    exact ⟨List.mem_of_find?_eq_some found, spelled_of_found found⟩
  · rintro ⟨member, spelled⟩
    cases found : memories.find? fun memory =>
        Csr.locationName component (some memory) == location with
    | none =>
      rw [List.find?_eq_none] at found
      exact absurd (beq_iff_eq.mpr spelled.symm) (found memory member)
    | some piece =>
      have same := (spelled_of_found found).symm.trans spelled
      rw [(String.append_right_inj _).mp same]

theorem hasMemory_iff : HasMemory peripherals location component memory ↔
    ∃ peripheral, (component, peripheral) ∈ peripherals.entries ∧
      (peripheral.memories.find? fun memory =>
        Csr.locationName component (some memory) == location) = some memory := by
  constructor
  · rintro ⟨⟨peripheral, bound, member⟩, spelled⟩
    exact ⟨peripheral, NameMap.mem_entries_iff.mpr bound,
      find?_memory_eq_some_iff.mpr ⟨member, spelled⟩⟩
  · rintro ⟨peripheral, entry, found⟩
    obtain ⟨member, spelled⟩ := find?_memory_eq_some_iff.mp found
    exact ⟨⟨peripheral, NameMap.mem_entries_iff.mp entry, member⟩, spelled⟩

/-- The search by name meets the shortest of the components first. -/
theorem owns_csrOwner (peripherals : NameMap Peripheral) (location : String) :
    Owns peripherals location (csrOwner peripherals location) := by
  unfold csrOwner
  dsimp only
  generalize found : peripherals.entries.findSome? _ = memory?
  cases memory? with
  | none =>
    rw [List.findSome?_eq_none_iff] at found
    refine .bank fun component memory held => ?_
    obtain ⟨peripheral, entry, here⟩ := hasMemory_iff.mp held
    have passed := found _ entry
    rw [here] at passed
    contradiction
  | some owner =>
    obtain ⟨before, ⟨component, peripheral⟩, later, split, here, passed⟩ :=
      List.findSome?_eq_some_iff.mp found
    obtain ⟨memory, named, rfl⟩ := Option.map_eq_some_iff.mp here
    have sorted := split ▸ peripherals.sorted
    have held : HasMemory peripherals location component memory :=
      hasMemory_iff.mpr ⟨peripheral, split ▸ List.mem_append_right _ List.mem_cons_self, named⟩
    refine .memory held fun other piece again => ?_
    obtain ⟨owner, entry, there⟩ := hasMemory_iff.mp again
    rw [split, List.mem_append, List.mem_cons] at entry
    rcases entry with earlier | same | later
    · have free := passed _ earlier
      rw [there] at free
      contradiction
    · cases same
      exact .inl ⟨rfl, held.memory_eq again⟩
    · have below := List.rel_of_pairwise_cons (List.pairwise_append.mp sorted).2.1 later
      exact .inr (held.length_lt again below)

theorem Owns.determined {first second : CsrOwner} (owns : Owns peripherals location first)
    (again : Owns peripherals location second) : first = second := by
  cases owns with
  | memory held shortest =>
    cases again with
    | memory heldToo shortestToo =>
      rcases shortest _ _ heldToo with ⟨rfl, rfl⟩ | longer
      · rfl
      · rcases shortestToo _ _ held with ⟨rfl, rfl⟩ | shorter
        · rfl
        · omega
    | bank none => exact absurd held (none _ _)
  | bank none =>
    cases again with
    | memory held => exact absurd held (none _ _)
    | bank => rfl

theorem state_addPeripheral {soc : Soc} {peripheral : Peripheral} :
    (addPeripheral component peripheral soc).state =
      if soc.peripherals.contains component then soc
      else { soc with peripherals := soc.peripherals.insert component peripheral } := by
  cases held : soc.peripherals.contains component <;>
    simp [addPeripheral, requireNew, install, Call.ask, Call.update, Bind.bind, Call.bind, held,
      Verdict.failWith, Pure.pure]

theorem addPeripheral_comm {soc : Soc} {first second : String × Peripheral}
    (different : first.1 ≠ second.1) :
    (addPeripheral second.1 second.2 (addPeripheral first.1 first.2 soc).state).state =
      (addPeripheral first.1 first.2 (addPeripheral second.1 second.2 soc).state).state := by
  simp only [state_addPeripheral]
  cases heldFirst : soc.peripherals.contains first.1 <;>
    cases heldSecond : soc.peripherals.contains second.1 <;>
    simp [heldFirst, heldSecond, NameMap.contains_insert, different, different.symm,
      NameMap.insert_comm different]

theorem leaves_addPeripheral_perm {soc : Soc} {first second : List (String × Peripheral)}
    (perm : first.Perm second) (distinct : (first.map (·.1)).Nodup) :
    Call.leaves (fun component => addPeripheral component.1 component.2) soc first =
      Call.leaves (fun component => addPeripheral component.1 component.2) soc second := by
  refine perm.foldl_eq' (fun a memberA b memberB middle => ?_) soc
  by_cases same : a.1 = b.1
  · rw [List.inj_on_of_nodup_map distinct memberA memberB same]
  · exact addPeripheral_comm same

theorem owner_of_csrPages {soc : Soc} {pages : List (String × CsrPage)}
    (paged : soc.csrPages.result = .ok pages) {page : CsrPage}
    (member : (location, page) ∈ pages) : page.owner = csrOwner soc.peripherals location ∧
      ∃ slot, soc.csr.locations.get? location = some slot := by
  simp only [csrPages] at paged
  split at paged
  next =>
    cases paged
    contradiction
  next =>
    split at paged
    next base _ =>
      cases paged
      obtain ⟨⟨name, slot⟩, located, same⟩ := List.mem_map.mp member
      cases same
      exact ⟨rfl, slot, LocationTable.mem_byLocation_iff.mp located⟩
    next => contradiction

end Soc

namespace AddressMap
open Soc

/-- A location belongs to the component with the shortest name that has a memory of its
name, or else to itself, whichever component was added first. On the pages of a finished
system, the memory of a component is found at the number of the page that belongs to it. -/
theorem owned_by_shortest_name :
    (∀ (peripherals : NameMap Peripheral) (location : String) (owner : CsrOwner),
      csrOwner peripherals location = owner ↔ Owns peripherals location owner) ∧
    (∀ (soc : Soc) (first second : List (String × Peripheral)), first.Perm second →
      (first.map (·.1)).Nodup →
      let added := Call.leaves (fun component => addPeripheral component.1 component.2) soc
      ∀ location, csrOwner (added first).peripherals location =
        csrOwner (added second).peripherals location) ∧
    ∀ (soc : Soc) (map : AddressMap), soc.finalize.result = .ok map →
      ∀ location page, (location, page) ∈ map.csrPages →
        Owns soc.peripherals location page.owner ∧
        ∃ slot, map.csr.locations.get? location = some slot ∧
          ∀ component memory, page.owner = .memory component memory →
            (map.csr.locate component (some memory)).result = .ok slot := by
  refine ⟨?rule, ?order, ?pages⟩
  case rule =>
    intro peripherals location owner
    have owns := owns_csrOwner peripherals location
    exact ⟨fun same => same ▸ owns, owns.determined⟩
  case order =>
    intro soc first second perm distinct added location
    exact congrArg (csrOwner ·.peripherals location) (leaves_addPeripheral_perm perm distinct)
  case pages =>
    intro soc map finished location page member
    obtain ⟨_, pages, _, _, -, paged, -, -, -, rfl⟩ := finalize_ok_iff.mp finished
    obtain ⟨owned, slot, located⟩ := owner_of_csrPages paged (List.mem_mergeSort.mp member)
    have owns := owns_csrOwner soc.peripherals location
    rw [← owned] at owns
    refine ⟨owns, slot, located, fun component memory same => ?_⟩
    rw [same] at owns
    cases owns with
    | memory held =>
      obtain ⟨-, rfl⟩ := held
      exact Csr.locate_of_known located

/-- A location that reads in two ways belongs to the shorter component, though it was
added later, and would if it was added first. -/
theorem owned_by_shorter_of_two :
    let long : String × Peripheral := ("a_b", { kind := .other, memories := ["c"] })
    let short : String × Peripheral := ("a", { kind := .other, memories := ["b_c"] })
    let added := Call.leaves fun component : String × Peripheral =>
      addPeripheral component.1 component.2
    ∃ (soc : Soc) (map : AddressMap), soc.finalize.result = .ok map ∧
      map.csrPages.map (fun page => (page.1, page.2.owner)) = [("a_b_c", .memory "a" "b_c")] ∧
      Owns soc.peripherals "a_b_c" (.memory "a" "b_c") ∧
      (map.csr.locate "a" (some "b_c")).result = .ok 5 ∧
      csrOwner (added soc [long, short]).peripherals "a_b_c" =
        csrOwner (added soc [short, long]).peripherals "a_b_c" := by
  intro long short added
  have evaluated : (do
      let soc ← Soc.run {} [.region "csr" (Region.fixed 0 0x10000),
        .peripheral long.1 long.2, .peripheral short.1 short.2,
        .location .csr "a_b_c" (some 5) false]
      let map ← soc.finalize
      pure (map.csrPages.map (fun page => (page.1, page.2.owner)), map.csr.locations.get? "a_b_c") :
      Verdict (List (String × CsrOwner) × Option UInt32)).result =
        .ok ([("a_b_c", .memory "a" "b_c")], some 5) := by
    decide +kernel
  simp only [Verdict.bind_ok_iff, Verdict.result_pure, Except.ok.injEq, Prod.mk.injEq] at evaluated
  obtain ⟨soc, -, map, finished, owners, placed⟩ := evaluated
  obtain ⟨-, anyOrder, pages⟩ := owned_by_shortest_name
  obtain ⟨⟨location, page⟩, single, same⟩ := List.map_eq_singleton_iff.mp owners
  obtain ⟨rfl, owned⟩ := Prod.mk.inj same
  obtain ⟨owns, slot, located, found⟩ :=
    pages soc map finished "a_b_c" page (single ▸ List.mem_cons_self)
  refine ⟨soc, map, finished, owners, owned ▸ owns, ?_, ?_⟩
  · rw [found "a" "b_c" owned, Option.some.inj (located.symm.trans placed)]
  · exact anyOrder soc _ _ (.swap _ _ _) (by decide) "a_b_c"

end AddressMap

end SystemOnChip
