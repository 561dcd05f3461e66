import Mathlib.Algebra.BigOperators.Ring.List
import Mathlib.Algebra.Ring.Nat
import Mathlib.Data.List.Induction
import SystemOnChip.Proofs.Bus.Acceptance

/-! Requests from the largest to the smallest. Where sizes are powers of two, each region
then fits right behind the ones before it, so that no address is lost between them. -/
namespace SystemOnChip.Bus

def totalSize (requests : List (String × Region)) : Nat :=
  (requests.map fun request => request.2.size.toNat).sum

/-- The requested regions, each right behind the one before it. -/
def stack (first : Nat) : List (String × Region) → List (String × Region)
  | [] => []
  | (name, region) :: rest =>
    (name, { region with origin := some (.ofNat first) }) :: stack (first + region.size.toNat) rest

/-- Cached bus regions without an origin, none of them larger than one before it. -/
structure LargestFirst (requests : List (String × Region)) : Prop where
  names : (requests.map (·.1)).Nodup
  unplaced : ∀ request ∈ requests,
    request.2.origin = none ∧ request.2.kind = .bus ∧ request.2.cached = true
  power : ∀ request ∈ requests, ∃ k, request.2.size.toNat = 2 ^ k
  descending : requests.Pairwise fun a b => b.2.size.toNat ≤ a.2.size.toNat

/-- The requests are accepted one after the other, and each of the regions is placed right
behind the bytes of those before it. -/
structure Stacks (bus : Bus) (requests : List (String × Region)) : Prop where
  accepted : (declareRegions requests bus).result = .ok ()
  stored : (declareRegions requests bus).state.regions.entries = stack 0 requests
  placed : ∀ before name given after, requests = before ++ (name, given) :: after →
    ∃ origin, origin.toNat = totalSize before ∧
      (declareRegion name given (declareRegions before bus).state).result =
        .ok { given with origin := some origin }

variable {bus : Bus} {name : String} {given : Region} {first address origin : Nat}
  {request : String × Region} {requests before after : List (String × Region)}

@[simp] theorem totalSize_nil : totalSize [] = 0 := rfl

@[simp] theorem totalSize_cons :
    totalSize (request :: requests) = request.2.size.toNat + totalSize requests := by
  simp [totalSize]

@[simp] theorem totalSize_append :
    totalSize (before ++ after) = totalSize before + totalSize after := by
  simp [totalSize]

theorem toNat_totalSize (fits : totalSize requests < 2 ^ 32) :
    (UInt64.ofNat (totalSize requests)).toNat = totalSize requests :=
  UInt64.toNat_ofNat_of_lt' (Nat.lt_trans fits (by decide))

@[simp] theorem stack_names : (stack first requests).map (·.1) = requests.map (·.1) := by
  induction requests generalizing first with
  | nil => rfl
  | cons request rest ih => simp [stack, ih]

theorem stack_concat : stack first (requests ++ [(name, given)]) = stack first requests ++
    [(name, { given with origin := some (.ofNat (first + totalSize requests)) })] := by
  induction requests generalizing first with
  | nil => simp [stack]
  | cons request rest ih => simp [stack, ih, Nat.add_assoc]

theorem covered_iff (fits : first + totalSize requests < UInt64.size) :
    (∃ entry ∈ stack first requests, entry.2.Covers address) ↔
      first ≤ address ∧ address < first + totalSize requests := by
  induction requests generalizing first with
  | nil =>
    simp only [stack, List.not_mem_nil, false_and, exists_false, totalSize_nil, false_iff]
    omega
  | cons request rest ih =>
    obtain ⟨name, region⟩ := request
    simp only [totalSize_cons] at fits ⊢
    have origin : (UInt64.ofNat first).toNat = first :=
      UInt64.toNat_ofNat_of_lt' (by omega)
    simp only [stack, List.exists_mem_cons_iff]
    rw [ih (by omega)]
    simp only [Region.Covers, Region.limit, Region.first, Option.isSome_some, Option.getD_some,
      origin, true_and]
    omega

namespace LargestFirst

theorem of_append (sorted : LargestFirst (before ++ after)) : LargestFirst before where
  names := by
    have names := sorted.names
    rw [List.map_append] at names
    exact (List.nodup_append.mp names).1
  unplaced request member := sorted.unplaced request (List.mem_append_left _ member)
  power request member := sorted.power request (List.mem_append_left _ member)
  descending := (List.pairwise_append.mp sorted.descending).1

theorem dvd_totalSize (sorted : LargestFirst (before ++ [request])) :
    request.2.size.toNat ∣ totalSize before := by
  apply List.dvd_sum
  intro size member
  obtain ⟨larger, listed, rfl⟩ := List.mem_map.mp member
  have least := (List.pairwise_append.mp sorted.descending).2.2 larger listed request (by simp)
  obtain ⟨k, power⟩ := sorted.power request (by simp)
  obtain ⟨l, powerLarger⟩ := sorted.power larger (by simp [listed])
  rw [power, powerLarger] at least ⊢
  exact Nat.pow_dvd_pow 2 ((Nat.pow_le_pow_iff_right (by decide)).mp least)

theorem last (sorted : LargestFirst (before ++ [(name, given)])) :
    given.origin = none ∧ given.kind = .bus ∧ given.cached = true ∧ given.isAligned = true ∧
      0 < given.size.toNat ∧ ∃ k, given.size.toNat = 2 ^ k := by
  have member : (name, given) ∈ before ++ [(name, given)] := by simp
  obtain ⟨unplaced, kind, cached⟩ := sorted.unplaced _ member
  obtain ⟨k, power⟩ := sorted.power _ member
  dsimp only at unplaced kind cached power
  have aligned := Region.isAligned_iff.mpr ⟨⟨k, power⟩, by simp [unplaced]⟩
  exact ⟨unplaced, kind, cached, aligned, power ▸ Nat.two_pow_pos k, k, power⟩

end LargestFirst

/-- A sound bus with stacked regions and nothing else. -/
structure Holds (bus : Bus) (requests : List (String × Region)) : Prop where
  sound : bus.Sound
  regions : bus.regions.entries = stack 0 requests
  windows : bus.windows.entries = []
  linkerRegions : bus.linkerRegions.entries = []

namespace Holds

theorem regionNames (holds : bus.Holds before) : bus.regionNames = before.map (·.1) := by
  simp [Bus.regionNames, holds.regions, holds.windows, holds.linkerRegions]

theorem hasRoom_iff (holds : bus.Holds before) (fits : totalSize before < 2 ^ 32)
    (positive : 0 < given.size.toNat) :
    bus.regions.HasRoom ⟨0, 2 ^ 32⟩ given.size.toNat origin ↔
      given.size.toNat ∣ origin ∧ totalSize before ≤ origin ∧
        origin + given.size.toNat < 2 ^ 32 := by
  have word : 0 + totalSize before < UInt64.size := by
    rw [Nat.zero_add]
    exact Nat.lt_trans fits (by decide)
  constructor
  · intro room
    refine ⟨room.aligned, ?_, room.limit⟩
    by_contra below
    obtain ⟨entry, member, covers⟩ := (covered_iff word).mpr ⟨Nat.zero_le origin, by omega⟩
    rw [← holds.regions] at member
    exact room.free entry member origin (Nat.le_refl _) (by omega) covers
  · rintro ⟨aligned, above, limit⟩
    refine ⟨aligned, Nat.zero_le _, limit, fun entry member address first _ covers => ?_⟩
    rw [holds.regions] at member
    have taken := (covered_iff word).mp ⟨entry, member, covers⟩
    omega

theorem fresh (holds : bus.Holds before) (sorted : LargestFirst (before ++ [(name, given)])) :
    name ∉ bus.regionNames := by
  have names := sorted.names
  rw [List.map_append, List.nodup_append] at names
  rw [holds.regionNames]
  intro member
  exact names.2.2 name member name (by simp) rfl

theorem extents_eq (holds : bus.Holds before) :
    Placement.extents ⟨name, given.size, true⟩ bus.addressWidth bus.windows = [⟨0, 2 ^ 32⟩] := by
  rw [Placement.extents, if_pos rfl, holds.sound.addressWidth_eq]
  rfl

theorem settle_next (holds : bus.Holds before) (sorted : LargestFirst (before ++ [(name, given)]))
    (fits : totalSize before + given.size.toNat < 2 ^ 32) : (bus.settle name given).result =
      .ok { given with origin := some (.ofNat (totalSize before)) } := by
  obtain ⟨unplaced, kind, cached, aligned, positive, power⟩ := sorted.last
  have below : totalSize before < 2 ^ 32 := by omega
  have least : IsLeast (Placement.room ⟨name, given.size, true⟩ bus.regions ⟨0, 2 ^ 32⟩)
      (UInt64.ofNat (totalSize before)).toNat := by
    rw [toNat_totalSize below]
    constructor
    · exact (holds.hasRoom_iff below positive).mpr
        ⟨sorted.dvd_totalSize, Nat.le_refl _, fits⟩
    · intro other room
      exact ((holds.hasRoom_iff below positive).mp room).2.1
  have placed : (Placement.place ⟨name, given.size, given.cached⟩ bus.addressWidth bus.windows
      bus.regions).result = .ok {
        origin := some (.ofNat (totalSize before))
        size := given.size
        cached := true } := by
    rw [cached, holds.sound.place_ok_iff power, holds.extents_eq]
    exact ⟨[], _, [], rfl, by simp, _, least, rfl⟩
  apply settle_ok_iff.mpr
  refine ⟨holds.fresh sorted, aligned, .inr ⟨unplaced, kind, _, placed, ?_⟩⟩
  rw [← kind, ← cached]

/-- The last byte of the address space stays free, so that a region that would end with it
is refused. -/
theorem settle_last (holds : bus.Holds before) (sorted : LargestFirst (before ++ [(name, given)]))
    (full : totalSize before + given.size.toNat = 2 ^ 32) : (bus.settle name given).result =
      .error (.insufficientAddressSpace name given.size true) := by
  obtain ⟨unplaced, kind, cached, aligned, positive, power⟩ := sorted.last
  apply settle_error_of_place (holds.fresh sorted) aligned unplaced kind
  rw [cached, holds.sound.place_error_iff power, holds.extents_eq]
  refine ⟨rfl, fun space member => ?_⟩
  rw [List.mem_singleton.mp member]
  apply Set.eq_empty_of_forall_notMem
  intro origin room
  have above := (holds.hasRoom_iff (by omega) positive).mp room
  omega

theorem store (holds : bus.Holds before) (sorted : LargestFirst (before ++ [(name, given)]))
    (fits : totalSize before + given.size.toNat < 2 ^ 32) :
    (bus.store name { given with origin := some (.ofNat (totalSize before)) }).Holds
      (before ++ [(name, given)]) := by
  have settled := (settled_of_settle (holds.settle_next sorted fits)).1
  have kind : given.kind = .bus := sorted.last.2.1
  refine ⟨holds.sound.store settled, ?_, ?_, ?_⟩
  · simp [Bus.store, kind, RegionTable.push, holds.regions, stack_concat]
  · simp [Bus.store, kind, holds.windows]
  · simp [Bus.store, kind, holds.linkerRegions]

end Holds

theorem declareRegions_concat : declareRegions (requests ++ [(name, given)]) =
    declareRegions requests >>= fun _ => discard (declareRegion name given) := by
  simp [declareRegions]

/-- On an empty bus all requests are stacked that end below the address limit. -/
theorem holds_declareRegions (empty : bus.Holds []) (sorted : LargestFirst requests)
    (fits : totalSize requests < 2 ^ 32) : (declareRegions requests bus).result = .ok () ∧
      (declareRegions requests bus).state.Holds requests := by
  induction requests using List.reverseRec with
  | nil => exact ⟨rfl, empty⟩
  | append_singleton before request ih =>
    obtain ⟨name, given⟩ := request
    simp only [totalSize_append, totalSize_cons, totalSize_nil, Nat.add_zero] at fits
    obtain ⟨accepted, holds⟩ := ih sorted.of_append (by omega)
    have runs : (discard (declareRegion name given)).Runs Step
        (declareRegions before bus).state _ := .discard declareRegion_runs
    have settled := holds.settle_next sorted fits
    have declared := Call.discard_ok_iff.mpr ⟨_, result_declareRegion.trans settled⟩
    obtain ⟨result, moves⟩ := Call.bind_ok (fun _ => discard (declareRegion name given)) accepted
    obtain ⟨stored, again, after⟩ := runs.done () declared
    cases settled.symm.trans again
    rw [declareRegions_concat]
    refine ⟨result.trans declared, ?_⟩
    rw [moves, after]
    exact holds.store sorted fits

theorem stacks_of_fits (empty : bus.Holds []) (sorted : LargestFirst requests)
    (fits : totalSize requests < 2 ^ 32) : bus.Stacks requests where
  accepted := (holds_declareRegions empty sorted fits).1
  stored := (holds_declareRegions empty sorted fits).2.regions
  placed := by
    rintro before name given after rfl
    rw [List.append_cons] at sorted
    simp only [totalSize_append, totalSize_cons] at fits
    have first := sorted.of_append
    have below : totalSize before < 2 ^ 32 := by omega
    have holds := (holds_declareRegions empty first.of_append below).2
    refine ⟨.ofNat (totalSize before), toNat_totalSize below, ?_⟩
    rw [result_declareRegion]
    exact holds.settle_next first (by omega)

/-- Powers of two, from the largest to the smallest, fill an empty bus from its first address
on without a gap. Only the last byte of the address space cannot be filled, so that of
regions which would fill all of it the last one is refused. -/
theorem stacked_up_to_last_byte (reached : bus.Reachable) (empty : bus.regionNames = [])
    (sorted : LargestFirst requests) :
    (totalSize requests < 2 ^ 32 → bus.Stacks requests) ∧
    (totalSize requests = 2 ^ 32 → ∃ before name given, requests = before ++ [(name, given)] ∧
      bus.Stacks before ∧
      (declareRegion name given (declareRegions before bus).state).result =
        .error (.insufficientAddressSpace name given.size true)) := by
  have nothing : bus.Holds [] := by
    simp only [regionNames, List.map_append, List.append_eq_nil_iff, List.map_eq_nil_iff] at empty
    obtain ⟨⟨regions, windows⟩, linkerRegions⟩ := empty
    exact ⟨reached.sound, regions, windows, linkerRegions⟩
  refine ⟨stacks_of_fits nothing sorted, fun full => ?_⟩
  rcases List.eq_nil_or_concat' requests with rfl | ⟨before, ⟨name, given⟩, rfl⟩
  · simp at full
  · have positive := sorted.last.2.2.2.2.1
    simp only [totalSize_append, totalSize_cons, totalSize_nil, Nat.add_zero] at full
    have fits : totalSize before < 2 ^ 32 := by omega
    refine ⟨before, name, given, rfl, stacks_of_fits nothing sorted.of_append fits, ?_⟩
    rw [result_declareRegion]
    exact (holds_declareRegions nothing sorted.of_append fits).2.settle_last sorted full

/-- Three regions would fill the address space, of which the first two are stacked. -/
theorem two_of_three_regions_stacked : ∃ (bus : Bus) (stacked : List (String × Region)),
    stacked = [("ddr", Region.unplaced 0x80000000),
      ("flash", { Region.unplaced 0x40000000 with mode := .read })] ∧
    bus.Reachable ∧ bus.regionNames = [] ∧
    LargestFirst (stacked ++ [("rom", Region.unplaced 0x40000000)]) ∧
    totalSize stacked = 0xc0000000 ∧ bus.Stacks stacked ∧
    (declareRegion "rom" (Region.unplaced 0x40000000) (declareRegions stacked bus).state).result =
      .error (.insufficientAddressSpace "rom" 0x40000000 true) := by
  have created : ∃ bus, (ofConfig {}).result = .ok bus ∧ bus.regionNames = [] := ⟨_, rfl, rfl⟩
  obtain ⟨bus, accepted, empty⟩ := created
  have reached : bus.Reachable := ⟨_, bus, [], accepted, rfl⟩
  let stacked := [("ddr", Region.unplaced 0x80000000),
    ("flash", { Region.unplaced 0x40000000 with mode := .read })]
  have sorted : LargestFirst (stacked ++ [("rom", Region.unplaced 0x40000000)]) := by
    refine ⟨by decide, by decide, ?_, by simp [stacked, Region.unplaced]⟩
    intro request member
    simp only [stacked, List.mem_append, List.mem_cons, List.not_mem_nil, or_false] at member
    rcases member with (rfl | rfl) | rfl
    · exact ⟨31, by simp [Region.unplaced]⟩
    · exact ⟨30, by simp [Region.unplaced]⟩
    · exact ⟨30, by simp [Region.unplaced]⟩
  have size : totalSize stacked = 0xc0000000 := by simp [totalSize, stacked, Region.unplaced]
  obtain ⟨before, name, given, split, -, refused⟩ :=
    (stacked_up_to_last_byte reached empty sorted).2 (by simp [size, Region.unplaced])
  obtain ⟨rfl, last⟩ := List.append_inj' split rfl
  cases last
  have behind := (stacked_up_to_last_byte reached empty sorted.of_append).1 (by simp [size])
  exact ⟨bus, stacked, rfl, reached, empty, sorted, size, behind, refused⟩

end SystemOnChip.Bus
