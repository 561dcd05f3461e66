import Mathlib.Algebra.Group.Nat.Defs
import SystemOnChip.Csr
import SystemOnChip.Proofs.Location

/-! The register bus. Its locations are as many as pages fit its address space, and
reservations leave it without masters. -/
namespace SystemOnChip.Csr

/-- The capacity is that of the address space of the registers. -/
structure Sound (csr : Csr) : Prop where
  addressWidth : csr.addressWidth ∈ supportedAddressWidths
  paging : csr.paging ∈ supportedPagings
  capacity : csr.locations.capacity = capacityOf csr.addressWidth csr.paging
  locations : csr.locations.Sound

variable {csr : Csr} {locations : LocationTable} {slot : UInt32}

theorem Sound.location (sound : csr.Sound) (moved : csr.locations.Step locations) :
    Sound { csr with locations } := by
  refine { sound with
    capacity := ?_
    locations := sound.locations.step moved }
  cases moved
  exact sound.capacity

theorem chooseMaster_ok_iff {wanted : Option String} {interface : Interface} {name : String} :
    (csr.chooseMaster wanted interface).result = .ok name ↔
      name = wanted.getD s!"master{csr.masters.length}" ∧ (csr.masters.lookup name).isNone ∧
        interface.dataWidth = csr.dataWidth := by
  simp only [chooseMaster, Verdict.bind_ok_iff, Verdict.require_ok_iff, Verdict.result_pure,
    Except.ok.injEq, beq_iff_eq]
  constructor
  · rintro ⟨-, fresh, -, width, rfl⟩
    exact ⟨rfl, fresh, width⟩
  · rintro ⟨rfl, fresh, width⟩
    exact ⟨(), fresh, (), width, rfl⟩

theorem attachMaster_runs (step : Csr → Csr → Prop) {wanted : Option String}
    {interface : Interface}
    (moves : ∀ name, (csr.chooseMaster wanted interface).result = .ok name →
      step csr { csr with masters := csr.masters ++ [(name, interface)] }) :
    (attachMaster wanted interface).Runs step csr fun answer after =>
      (csr.chooseMaster wanted interface).result = .ok answer ∧
        after = { csr with masters := csr.masters ++ [(answer, interface)] } := by
  refine .bind_ask fun answer chosen => ?_
  rw [Verdict.result_orDump] at chosen
  apply Call.Runs.bind_update (moves answer chosen)
  exact .bind_info (.pure ⟨chosen, rfl⟩)

theorem result_attachMaster {wanted : Option String} {interface : Interface} :
    (attachMaster wanted interface csr).result = (csr.chooseMaster wanted interface).result := by
  rw [attachMaster, Call.result_bind_of_answers, Call.result_ask, Verdict.result_orDump]
  intro name middle
  rfl

/-- Reservations record locations and do nothing else, each at its number. -/
theorem reserve_records {reservations : List (String × UInt32)} :
    (reserve reservations).Runs (fun before after => ∃ locations,
      before.locations.Step locations ∧ after = { before with locations }) csr
      fun _ after => ∀ entry ∈ reservations, after.locations.get? entry.1 = some entry.2 := by
  refine .forM_each ?_ fun entry _ middle => ?_
  · rintro entry before _ ⟨locations, moved, rfl⟩ recorded
    exact moved.extends.slots _ _ recorded
  · unfold assign onLocations
    refine .ignore (.weaken (.on LocationTable.assign_wanted_runs rfl ?_) ?_)
    · intro before after moved
      exact ⟨after, moved, rfl⟩
    · rintro _ _ ⟨locations, recorded, rfl⟩
      exact recorded

theorem ofConfig_sound {config : Config} (accepted : (ofConfig config).result = .ok csr) :
    csr.Sound ∧ csr.masters = [] := by
  simp only [ofConfig, Verdict.bind_ok_iff, Verdict.require_ok_iff, Verdict.result_info,
    Call.completed_ok_iff, Verdict.result_pure, Except.ok.injEq, List.contains_iff_mem] at accepted
  obtain ⟨-, -, -, -, -, address, -, -, -, paging, -, -, created, ⟨-, reserved⟩, -, -, rfl⟩ :=
    accepted
  have kept : ∀ before after : Csr,
      (∃ locations, before.locations.Step locations ∧ after = { before with locations }) →
      before.Sound ∧ before.masters = [] → after.Sound ∧ after.masters = [] := by
    rintro before _ ⟨locations, moved, rfl⟩ ⟨sound, none⟩
    exact ⟨sound.location moved, none⟩
  rw [← reserved]
  exact reserve_records.keeps kept ⟨⟨address, paging, rfl, .empty⟩, rfl⟩

theorem locations_of_ofConfig {config : Config} (accepted : (ofConfig config).result = .ok csr) :
    csr.locations.capacity = capacityOf config.addressWidth config.paging ∧
      ∀ name slot, config.reserved.get? name = some slot → csr.locations.get? name = some slot := by
  simp only [ofConfig, Verdict.bind_ok_iff, Verdict.require_ok_iff, Verdict.result_info,
    Call.completed_ok_iff, Verdict.result_pure, Except.ok.injEq] at accepted
  obtain ⟨-, -, -, -, -, -, -, -, -, -, -, -, created, ⟨ended, reserved⟩, -, -, rfl⟩ := accepted
  have kept : ∀ before after : Csr,
      (∃ locations, before.locations.Step locations ∧ after = { before with locations }) →
      before.locations.capacity = capacityOf config.addressWidth config.paging →
      after.locations.capacity = capacityOf config.addressWidth config.paging := by
    rintro before _ ⟨locations, moved, rfl⟩ same
    exact moved.extends.capacity.trans same
  rw [← reserved]
  refine ⟨reserve_records.keeps kept rfl, fun name slot wanted => ?_⟩
  exact reserve_records.done () ended (name, slot) (NameMap.mem_entries_iff.mpr wanted)

/-- The bytes in the address space of the registers. -/
def addressSpace (csr : Csr) : Nat := 2 ^ (csr.addressWidth.toNat + 2)

namespace Sound

theorem paging_eq (sound : csr.Sound) : csr.paging = 0x800 := List.mem_singleton.mp sound.paging

theorem addressWidth_eq (sound : csr.Sound) : csr.addressWidth = 14 ∨ csr.addressWidth = 15 := by
  rcases List.mem_cons.mp sound.addressWidth with same | other
  · exact .inl same
  · exact .inr (List.mem_singleton.mp other)

/-- The locations are exactly those whose pages are in the address space. -/
theorem capacity_mul_paging (sound : csr.Sound) :
    csr.locations.capacity.toNat * csr.paging.toNat = csr.addressSpace := by
  rw [sound.capacity, sound.paging_eq, addressSpace]
  rcases sound.addressWidth_eq with same | same <;> rw [same] <;> decide

theorem addressSpace_le (sound : csr.Sound) : 8 ≤ csr.addressSpace ∧ csr.addressSpace ≤ 2 ^ 32 := by
  rw [addressSpace]
  rcases sound.addressWidth_eq with same | same <;> rw [same] <;> decide

theorem page_le (sound : csr.Sound) (below : slot < csr.locations.capacity) :
    csr.paging.toNat * slot.toNat + csr.paging.toNat ≤ csr.addressSpace := by
  rw [← sound.capacity_mul_paging, ← Nat.mul_succ, Nat.mul_comm]
  exact Nat.mul_le_mul_right _ (UInt32.lt_iff_toNat_lt.mp below)

end Sound

/-- A call on the registers alone, as data. -/
inductive Declaration where
  | location (name : String) (wanted : Option UInt32) (reuse : Bool)
  | master (name : Option String) (interface : Interface)

/-- A declaration answers a location, or the name of a master. -/
def Declaration.perform : Declaration → Call Csr (UInt32 ⊕ String)
  | location name wanted reuse => .inl <$> assign name wanted reuse
  | master name interface => .inr <$> attachMaster name interface

/-- Declarations on the registers keep all locations. -/
theorem perform_runs (declaration : Declaration) : declaration.perform.Runs
    (fun before after => before.locations.Extends after.locations) csr fun _ _ => True := by
  cases declaration with
  | location name wanted reuse =>
    unfold Declaration.perform assign onLocations
    refine .map (.on LocationTable.assign_runs rfl ?_) fun _ _ _ => trivial
    exact fun before after moved => moved.extends
  | master name interface =>
    exact .map (attachMaster_runs _ fun _ _ => .refl) fun _ _ _ => trivial

theorem locate_of_known {component : String} {memory : Option String}
    (known : csr.locations.get? (locationName component memory) = some slot) :
    (csr.locate component memory).result = .ok slot := by
  simp only [locate, known, Verdict.result_pure]

end SystemOnChip.Csr
