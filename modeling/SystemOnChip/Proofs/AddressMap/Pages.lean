import SystemOnChip.Proofs.AddressMap.Routing

/-! Where the pages of registers lie: each at its location in the address space
of the registers, one behind the other, and behind the bridge of the registers
if there is one. -/
namespace SystemOnChip

namespace Soc
variable {soc : Soc} {base : UInt64} {slot : UInt32}

theorem csrWindow_size (sound : soc.csr.Sound) (origin : UInt64) :
    (csrWindow soc.csr origin).size.toNat = soc.csr.addressSpace := by
  simp only [csrWindow, Region.fixed, Csr.addressSpace]
  rcases sound.addressWidth_eq with same | same <;> rw [same] <;> decide

theorem csrPage_origin (sound : soc.csr.Sound) (low : base.toNat ≤ 2 ^ 32) {name : String}
    (below : slot < soc.csr.locations.capacity) : (soc.csrPage base name slot).origin.toNat =
      base.toNat + soc.csr.paging.toNat * slot.toNat := by
  have fits := sound.page_le below
  have small := sound.addressSpace_le.2
  have product : soc.csr.paging.toNat * slot.toNat < 2 ^ 64 := by omega
  rw [csrPage, UInt64.toNat_add, UInt64.toNat_mul, UInt32.toNat_toUInt64, UInt32.toNat_toUInt64,
    Nat.mod_eq_of_lt product, Nat.mod_eq_of_lt (by omega)]

/-- The pages are those of the locations, from the origin of the registers on. -/
theorem csrPages_ok (sound : soc.Sound) {pages : List (String × CsrPage)}
    (paged : soc.csrPages.result = .ok pages) :
    ∃ base, pages = soc.csr.locations.byLocation.map
        (fun location => (location.1, soc.csrPage base location.1 location.2)) ∧
      ∀ location ∈ soc.csr.locations.byLocation,
        (∃ region, soc.bus.regions.get? csrRegionName = some region ∧
          region.first = base.toNat) ∧
        location.2 < soc.csr.locations.capacity ∧
        (soc.csrPage base location.1 location.2).origin.toNat =
          base.toNat + soc.csr.paging.toNat * location.2.toNat := by
  simp only [csrPages] at paged
  split at paged
  next none =>
    cases paged
    rw [List.isEmpty_iff] at none
    exact ⟨0, by rw [none]; rfl, fun location member => by rw [none] at member; contradiction⟩
  next =>
    split at paged
    next base found =>
      cases paged
      obtain ⟨region, found, given⟩ := Option.bind_eq_some_iff.mp found
      have first : region.first = base.toNat := by rw [Region.first, given, Option.getD_some]
      have limit := sound.bus.region_limit_le found
      rw [Region.limit, first] at limit
      refine ⟨base, rfl, fun location member => ⟨⟨region, found, first⟩, ?_⟩⟩
      have below : location.2 < soc.csr.locations.capacity :=
        sound.csr.locations.bounded _ _ (LocationTable.mem_byLocation_iff.mp member)
      exact ⟨below, csrPage_origin sound.csr (by omega) below⟩
    next => contradiction

theorem page_at_location (sound : soc.Sound) {pages : List (String × CsrPage)}
    (paged : soc.csrPages.result = .ok pages) {name : String} {page : CsrPage}
    (member : (name, page) ∈ pages) : ∃ region slot,
      soc.bus.regions.get? csrRegionName = some region ∧
      soc.csr.locations.get? name = some slot ∧
      page.origin.toNat = region.first + soc.csr.paging.toNat * slot.toNat ∧
      page.origin.toNat + soc.csr.paging.toNat ≤ region.first + soc.csr.addressSpace := by
  obtain ⟨base, rfl, each⟩ := csrPages_ok sound paged
  obtain ⟨location, located, same⟩ := List.mem_map.mp member
  cases same
  obtain ⟨⟨region, found, first⟩, below, origin⟩ := each location located
  have fits := sound.csr.page_le below
  refine ⟨region, location.2, found, LocationTable.mem_byLocation_iff.mp located, ?_, ?_⟩
  · rw [origin, first]
  · rw [origin, first]
    omega

/-- Pages come in the order of their locations, so that no two share a byte. -/
theorem pages_apart (sound : soc.Sound) {pages : List (String × CsrPage)}
    (paged : soc.csrPages.result = .ok pages) : pages.Pairwise fun a b =>
      a.2.origin.toNat + soc.csr.paging.toNat ≤ b.2.origin.toNat := by
  obtain ⟨base, rfl, each⟩ := csrPages_ok sound paged
  rw [List.pairwise_map]
  refine sound.csr.locations.byLocation_increasing.imp_of_mem fun {a b} memberA memberB below => ?_
  obtain ⟨-, -, originA⟩ := each a memberA
  obtain ⟨-, -, originB⟩ := each b memberB
  have step := Nat.mul_le_mul_left soc.csr.paging.toNat (UInt32.lt_iff_toNat_lt.mp below)
  rw [Nat.mul_succ] at step
  dsimp only
  omega

theorem pagesByOrigin_eq (sound : soc.Sound) {pages : List (String × CsrPage)}
    (paged : soc.csrPages.result = .ok pages) : pagesByOrigin pages = pages := by
  apply List.mergeSort_of_pairwise
  refine (pages_apart sound paged).imp fun {a b} apart => decide_eq_true ?_
  rw [UInt64.le_iff_toNat_le]
  omega

theorem page_names (sound : soc.Sound) {pages : List (String × CsrPage)}
    (paged : soc.csrPages.result = .ok pages) :
    pages.map (·.1) = soc.csr.locations.byLocation.map (·.1) := by
  obtain ⟨base, rfl, -⟩ := csrPages_ok sound paged
  rw [List.map_map]
  rfl

end Soc

namespace AddressMap
variable {soc : Soc} {map : AddressMap}

/-- There is one page for each location of a register bus, at a multiple of the
page size that the location numbers, in the address space of the registers. Pages
are in order and apart, the register bus has them as its slaves, and with a
bridge every address of a page is routed to the registers. -/
structure Paged (soc : Soc) (map : AddressMap) : Prop where
  names : (map.csrPages.map (·.1)).Perm (soc.csr.locations.slots.entries.map (·.1))
  placed : ∀ name page, (name, page) ∈ map.csrPages → ∃ region slot,
    soc.bus.regions.get? "csr" = some region ∧
    soc.csr.locations.get? name = some slot ∧
    page.origin.toNat = region.first + soc.csr.paging.toNat * slot.toNat ∧
    page.origin.toNat + soc.csr.paging.toNat ≤
      region.first + 2 ^ (soc.csr.addressWidth.toNat + 2)
  apart : map.csrPages.Pairwise fun a b => a.2.origin < b.2.origin ∧
    a.2.origin.toNat + soc.csr.paging.toNat ≤ b.2.origin.toNat
  slaves : ∀ registers, map.csrInterconnect = some registers →
    registers.slaves = map.csrPages.map (·.1)
  routed : ∀ registers interconnect, map.csrInterconnect = some registers →
    map.busInterconnect = some interconnect → ∀ name page, (name, page) ∈ map.csrPages →
    ∀ address : UInt64, page.origin.toNat ≤ address.toNat →
      address.toNat < page.origin.toNat + soc.csr.paging.toNat →
      interconnect.route address = some "csr"

theorem bridged_of_csrInterconnect (sound : soc.Sound) {registers : CsrInterconnect}
    (attached : soc.csrInterconnect = some registers) : soc.Bridged := by
  rw [Soc.csrInterconnect] at attached
  split at attached
  next => contradiction
  next some => exact sound.bridged fun none => some (List.isEmpty_iff.mpr none)

theorem route_of_bridged (sound : soc.Sound) {interconnect : BusInterconnect}
    (bridged : soc.Bridged)
    (decoded : Soc.SlaveDecoders soc.bus interconnect.slaves) {region : Region}
    (found : soc.bus.regions.get? Soc.csrRegionName = some region) {address : UInt64}
    (above : region.first ≤ address.toNat)
    (below : address.toNat < region.first + soc.csr.addressSpace) :
    interconnect.route address = some Soc.csrRegionName := by
  obtain ⟨slave, origin, window⟩ := bridged
  cases Option.some.inj (window.symm.trans found)
  have size := Soc.csrWindow_size sound.csr origin
  refine decoded.route_of_covers sound.bus (Names.lookup_isSome_iff.mp slave) window ?_ ?_
  · rw [size, sound.bus.wordBytes_eq]
    have word := (Decoder.wordShiftOf_spec sound.bus.dataWidth).1
    exact Nat.le_trans (Nat.pow_le_pow_right (by decide) word) sound.csr.addressSpace_le.1
  · refine ⟨rfl, above, ?_⟩
    rw [Region.limit, size]
    exact below

theorem paged_of_finalize (reached : soc.Reachable) (finished : soc.finalize.result = .ok map) :
    Paged soc map := by
  have sound := reached.sound
  have decoded {interconnect : BusInterconnect}
      (connected : map.busInterconnect = some interconnect) :=
    decoded_of_connected sound.bus finished connected
  obtain ⟨_, pages, _, _, -, paged, -, -, -, rfl⟩ := Soc.finalize_ok_iff.mp finished
  have ordered := Soc.pagesByOrigin_eq sound paged
  constructor
  case names =>
    dsimp only
    rw [ordered, Soc.page_names sound paged]
    exact (List.mergeSort_perm _ _).map _
  case placed =>
    intro name page member
    exact Soc.page_at_location sound paged (ordered ▸ member)
  case apart =>
    dsimp only
    rw [ordered]
    refine (Soc.pages_apart sound paged).imp fun {a b} apart => ⟨?_, apart⟩
    have positive : soc.csr.paging.toNat = 0x800 := by rw [sound.csr.paging_eq]; rfl
    rw [UInt64.lt_iff_toNat_lt]
    omega
  case slaves =>
    intro registers attached
    dsimp only
    rw [ordered, Soc.page_names sound paged]
    simp only [Soc.csrInterconnect, Option.ite_none_left_eq_some, Option.some.injEq] at attached
    rw [← attached.2]
  case routed =>
    intro registers interconnect attached connected name page member address above below
    obtain ⟨region, slot, found, -, origin, fits⟩ :=
      Soc.page_at_location sound paged (ordered ▸ member)
    have bridged := bridged_of_csrInterconnect sound attached
    refine route_of_bridged sound bridged (decoded connected) found ?_ ?_ <;> omega

/-- A bridge at an origin that is not aligned is refused, and one that is takes
its place among slaves of less than a word. It leads to the last word of the last page. -/
theorem paged_of_second_bridge : ∃ (soc : Soc) (map : AddressMap) (interconnect : BusInterconnect),
    soc.Reachable ∧ soc.finalize.result = .ok map ∧
    map.csrPages.map (fun page => (page.1, page.2.origin)) =
      [("late", 0xf0002800), ("early", 0xf0004800)] ∧
    map.csrInterconnect = some ⟨["bridge"], ["late", "early"]⟩ ∧
    map.busInterconnect = some interconnect ∧ interconnect.route 0xf0004ffc = some "csr" ∧
    Paged soc map := by
  have evaluated : (do
      let soc ← Soc.run Soc.windowed [.location .csr "early" (some 9) false,
        .slave (some "tiny") ⟨32⟩ (some (Region.fixed 0x10000000 2)), .csrBridge 0xf0000001,
        .csrBridge 0xf0000000, .location .csr "late" (some 5) false, .master none ⟨32⟩]
      let map ← soc.finalize
      pure (map.csrPages.map (fun page => (page.1, page.2.origin)), map.csrInterconnect,
        map.busInterconnect.map (·.route 0xf0004ffc)) :
      Verdict (List (String × UInt64) × Option CsrInterconnect × Option (Option String))).result =
      .ok ([("late", 0xf0002800), ("early", 0xf0004800)],
        some ⟨["bridge"], ["late", "early"]⟩, some (some "csr")) := by
    simp only [Soc.finalize, Soc.csrPages, Soc.csrConstants, Soc.csrInterconnect,
      Soc.pagesByOrigin, LocationTable.byLocation, Sorting.mergeSort_key_eq_insertionSort]
    decide +kernel
  simp only [Verdict.bind_ok_iff, Verdict.result_pure, Except.ok.injEq, Prod.mk.injEq,
    Option.map_eq_some_iff] at evaluated
  obtain ⟨soc, ran, map, finished, pages, registers, interconnect, connected, routed⟩ := evaluated
  have reached := Soc.reachable_of_run ran
  exact ⟨soc, map, interconnect, reached, finished, pages, registers, connected, routed,
    paged_of_finalize reached finished⟩

end AddressMap

end SystemOnChip
