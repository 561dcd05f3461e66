import SystemOnChip.Irq
import SystemOnChip.Proofs.Location

/-! Interrupt lines as they are reserved. -/
namespace SystemOnChip.Irq

/-- Each reservation is recorded at its number. -/
theorem reserve_records {irq : Irq} {reservations : List (String × UInt32)} :
    (reserve reservations).Runs (fun before after => before.locations.Step after.locations) irq
      fun _ after => ∀ entry ∈ reservations, after.locations.get? entry.1 = some entry.2 := by
  refine .forM_each (fun entry _ _ moved => moved.extends.slots _ _) fun entry _ middle => ?_
  unfold assign onLocations
  refine .ignore (.weaken (.on LocationTable.assign_wanted_runs rfl ?_) ?_)
  · exact fun before after moved => moved
  · rintro _ _ ⟨locations, recorded, rfl⟩
    exact recorded

theorem ofConfig_sound {irq : Irq} {config : Config}
    (accepted : (ofConfig config).result = .ok irq) : irq.locations.Sound := by
  simp only [ofConfig, Verdict.bind_ok_iff, Verdict.require_ok_iff, Verdict.result_info,
    Call.completed_ok_iff, Verdict.result_pure, Except.ok.injEq] at accepted
  obtain ⟨-, -, -, -, -, -, created, ⟨-, reserved⟩, -, -, rfl⟩ := accepted
  have kept : ∀ before after : Irq, before.locations.Step after.locations →
      before.locations.Sound → after.locations.Sound :=
    fun before after moved sound => sound.step moved
  rw [← reserved]
  exact reserve_records.keeps kept .empty

theorem locations_of_ofConfig {irq : Irq} {config : Config}
    (accepted : (ofConfig config).result = .ok irq) : irq.locations.capacity = config.count ∧
      ∀ name line, config.reserved.get? name = some line → irq.locations.get? name = some line := by
  simp only [ofConfig, Verdict.bind_ok_iff, Verdict.require_ok_iff, Verdict.result_info,
    Call.completed_ok_iff, Verdict.result_pure, Except.ok.injEq] at accepted
  obtain ⟨-, -, -, -, -, -, created, ⟨ended, reserved⟩, -, -, rfl⟩ := accepted
  have kept : ∀ before after : Irq, before.locations.Step after.locations →
      before.locations.capacity = config.count → after.locations.capacity = config.count :=
    fun before after moved same => moved.extends.capacity.trans same
  rw [← reserved]
  refine ⟨reserve_records.keeps kept rfl, fun name line wanted => ?_⟩
  exact reserve_records.done () ended (name, line) (NameMap.mem_entries_iff.mpr wanted)

end SystemOnChip.Irq
