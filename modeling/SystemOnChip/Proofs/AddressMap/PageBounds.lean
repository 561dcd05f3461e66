import SystemOnChip.Proofs.AddressMap.Pages

/-! Whose addresses the pages of registers take. They lie one behind the other from the
origin of the region of the registers on, whatever its size: those that end within the
region take no address of another one, as all do behind a bridge. -/
namespace SystemOnChip

def CsrPage.Covers (page : CsrPage) (paging : UInt32) (address : Nat) : Prop :=
  page.origin.toNat ≤ address ∧ address < page.origin.toNat + paging.toNat

instance (page : CsrPage) (paging : UInt32) (address : Nat) :
    Decidable (page.Covers paging address) :=
  inferInstanceAs (Decidable (_ ∧ _))

theorem CsrPage.within_iff {page : CsrPage} {region : Region} {paging slot : UInt32}
    (positive : 0 < paging.toNat) (placed : region.origin.isSome)
    (origin : page.origin.toNat = region.first + paging.toNat * slot.toNat) :
    (∀ address, page.Covers paging address → region.Covers address) ↔
      paging.toNat * (slot.toNat + 1) ≤ region.size.toNat := by
  rw [Nat.mul_succ]
  constructor
  · intro within
    obtain ⟨-, -, below⟩ :=
      within (page.origin.toNat + paging.toNat - 1) ⟨by omega, by omega⟩
    rw [Region.limit] at below
    omega
  · rintro fits address ⟨above, below⟩
    refine ⟨placed, by omega, ?_⟩
    rw [Region.limit]
    omega

namespace AddressMap
variable {soc : Soc} {map : AddressMap} {name : String} {page : CsrPage}

theorem addressSpace_le_of_masters (sound : soc.Sound) (attached : soc.csr.masters ≠ [])
    {region : Region} (found : soc.bus.regions.get? Soc.csrRegionName = some region) :
    soc.csr.addressSpace ≤ region.size.toNat := by
  -- masters are attached behind the window on all pages, which has not changed since
  obtain ⟨-, origin, window⟩ := sound.bridged attached
  cases Option.some.inj (window.symm.trans found)
  exact Nat.le_of_eq (Soc.csrWindow_size sound.csr origin).symm

/-- The page of a location lies in the region of the registers exactly if this has the
bytes of all pages up to it. A region of the size of the register address space has
them, and so has the one behind a bridge. What of a page lies in the region lies in no
other one. -/
structure Bounded (soc : Soc) (page : CsrPage) (region : Region) (slot : UInt32) : Prop where
  within : (∀ address, page.Covers soc.csr.paging address → region.Covers address) ↔
    soc.csr.paging.toNat * (slot.toNat + 1) ≤ region.size.toNat
  large : 2 ^ (soc.csr.addressWidth.toNat + 2) ≤ region.size.toNat ∨ soc.csr.masters ≠ [] →
    soc.csr.paging.toNat * (slot.toNat + 1) ≤ region.size.toNat
  alone : ∀ address, page.Covers soc.csr.paging address → region.Covers address →
    ∀ other neighbour, other ≠ "csr" →
      soc.bus.regions.get? other = some neighbour → ¬ neighbour.Covers address

theorem bounded_of_finalize (reached : soc.Reachable) (finished : soc.finalize.result = .ok map)
    (member : (name, page) ∈ map.csrPages) : ∃ region slot,
      soc.bus.regions.get? "csr" = some region ∧
      soc.csr.locations.get? name = some slot ∧ Bounded soc page region slot := by
  have sound := reached.sound
  obtain ⟨_, pages, _, _, -, paged, -, -, -, rfl⟩ := Soc.finalize_ok_iff.mp finished
  have listed : (name, page) ∈ pages := Soc.pagesByOrigin_eq sound paged ▸ member
  obtain ⟨region, slot, found, located, origin, fits⟩ := Soc.page_at_location sound paged listed
  have positive : 0 < soc.csr.paging.toNat := by
    rw [sound.csr.paging_eq]
    decide
  refine ⟨region, slot, found, located, ?_, fun large => ?_, ?_⟩
  · exact CsrPage.within_iff positive (sound.bus.region_placed found).origin origin
  · have space : soc.csr.addressSpace ≤ region.size.toNat :=
      large.elim id fun attached => addressSpace_le_of_masters sound attached found
    rw [Nat.mul_succ]
    omega
  · intro address _ covered other neighbour different foundOther both
    exact sound.bus.regions_apart different.symm found foundOther address ⟨covered, both⟩

/-- Behind a bridge the page of the last location ends where a memory begins. -/
theorem bounded_before_memory : ∃ (soc : Soc) (map : AddressMap) (page : CsrPage)
    (region memory : Region), soc.Reachable ∧ soc.finalize.result = .ok map ∧
    ("last", page) ∈ map.csrPages ∧ soc.bus.regions.get? "csr" = some region ∧
    soc.bus.regions.get? "sram" = some memory ∧ page.Covers soc.csr.paging 0xf000ffff ∧
    memory.first = 0xf0010000 ∧ ∀ address, page.Covers soc.csr.paging address →
      region.Covers address ∧ ¬ memory.Covers address := by
  have evaluated : (do
      let soc ← Soc.run Soc.windowed [.location .csr "last" (some 31) false,
        .csrBridge 0xf0000000, .ram "sram" 0xf0010000 0x1000 .readWrite]
      let map ← soc.finalize
      pure (map.csrPages, soc.csr.paging, soc.csr.masters.isEmpty,
        soc.bus.regions.get? "sram") :
      Verdict (List (String × CsrPage) × UInt32 × Bool × Option Region)).result =
        .ok ([("last", ⟨0xf000f800, 32, .bank "last"⟩)], 0x800, false,
          some (Region.fixed 0xf0010000 0x1000)) := by
    decide +kernel
  simp only [Verdict.bind_ok_iff, Verdict.result_pure, Except.ok.injEq, Prod.mk.injEq] at evaluated
  obtain ⟨soc, ran, map, finished, pages, paging, attached, memory⟩ := evaluated
  have reached := Soc.reachable_of_run ran
  have member : ("last", ⟨0xf000f800, 32, .bank "last"⟩) ∈ map.csrPages := by
    rw [pages]
    exact List.mem_cons_self
  obtain ⟨region, slot, found, -, bounded⟩ := bounded_of_finalize reached finished member
  have masters : soc.csr.masters ≠ [] := fun none => by
    rw [none] at attached
    contradiction
  refine ⟨soc, map, _, region, _, reached, finished, member, found, memory, ?_, rfl, ?_⟩
  · rw [paging]
    decide
  · intro address covered
    have within := bounded.within.mpr (bounded.large (.inr masters)) address covered
    exact ⟨within, bounded.alone address covered within "sram" _ (by decide) memory⟩

/-- A page lies in a memory, if a region of one page is declared for the registers and
the second location is in use. -/
theorem page_beyond_small_region : ∃ (soc : Soc) (map : AddressMap) (page : CsrPage)
    (region memory : Region),
    (Soc.run {} [.region "csr" (Region.fixed 0 0x800), .ram "sram" 0x800 0x800 .readWrite,
      .location .csr "bank" (some 1) false]).result = .ok soc ∧
    soc.finalize.result = .ok map ∧ ("bank", page) ∈ map.csrPages ∧
    soc.bus.regions.get? "csr" = some region ∧
    soc.bus.regions.get? "sram" = some memory ∧
    page.Covers soc.csr.paging 0x800 ∧ ¬ region.Covers 0x800 ∧ memory.Covers 0x800 := by
  have evaluated : (do
      let soc ← Soc.run {} [.region "csr" (Region.fixed 0 0x800),
        .ram "sram" 0x800 0x800 .readWrite, .location .csr "bank" (some 1) false]
      let map ← soc.finalize
      pure (map.csrPages, soc.csr.paging, soc.bus.regions.get? "csr",
        soc.bus.regions.get? "sram") :
      Verdict (List (String × CsrPage) × UInt32 × Option Region × Option Region)).result =
        .ok ([("bank", ⟨0x800, 32, .bank "bank"⟩)], 0x800, some (Region.fixed 0 0x800),
          some (Region.fixed 0x800 0x800)) := by
    decide +kernel
  simp only [Verdict.bind_ok_iff, Verdict.result_pure, Except.ok.injEq, Prod.mk.injEq] at evaluated
  obtain ⟨soc, ran, map, finished, pages, paging, found, memory⟩ := evaluated
  refine ⟨soc, map, ⟨0x800, 32, .bank "bank"⟩, _, _, ran, finished, ?_, found, memory, ?_, ?_, ?_⟩
  · rw [pages]
    exact List.mem_cons_self
  · rw [paging]
    decide
  · decide
  · decide

end AddressMap

end SystemOnChip
