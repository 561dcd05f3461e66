import SystemOnChip.Proofs.AddressMap.Pages
import SystemOnChip.Proofs.Soc.Extension
import SystemOnChip.Proofs.Soc.Faults

/-! The masters of the registers. There is none but the bridge, which comes with a window on
all of their pages, so that nothing stands in its way once it has its window. -/
namespace SystemOnChip.Soc

/-- The registers have no master, or the bridge alone, with the width of their bus. -/
def BridgeOnly (soc : Soc) : Prop :=
  soc.csr.masters = [] ∨ soc.csr.masters = [("bridge", ⟨soc.csr.dataWidth⟩)]

/-- The region of a slave that reaches every page of the registers: it is uncached, inside
an io window, and ends below the end of that. -/
structure BridgeWindow (soc : Soc) (region : Region) : Prop where
  slave : (soc.bus.slave? "csr").isSome
  stored : soc.bus.regions.get? "csr" = some region
  placed : region.IsPlaced
  uncached : region.cached = false
  size : region.size.toNat = 2 ^ (soc.csr.addressWidth.toNat + 2)
  pages : region.size.toNat = soc.csr.locations.capacity.toNat * soc.csr.paging.toNat
  inside : ∃ window ∈ soc.bus.windows.entries, window.2.kind = .io ∧ region.Inside window.2

variable {soc after : Soc} {origin : UInt64} {fault : Fault}

theorem BridgeOnly.step (only : soc.BridgeOnly) (moved : Step soc after) : after.BridgeOnly := by
  cases moved with
  | csrMaster bridged fresh =>
    rcases only with none | bridge
    · right
      simp [none]
    · simp [bridge] at fresh
  | bus | csrLocation | irqLocation | constant | peripheral | cpu | controller | resetSource =>
    exact only

theorem Reachable.bridgeOnly (reached : soc.Reachable) : soc.BridgeOnly := by
  induction reached with
  | created accepted => exact .inl (Csr.ofConfig_sound (ofConfig_parts accepted).1).2
  | declared _ declaration ih =>
    exact (perform_runs declaration).keeps (fun _ _ moved only => only.step moved) ih

theorem Sound.bridgeWindow (sound : soc.Sound) (bridged : soc.Bridged) :
    ∃ region, soc.BridgeWindow region := by
  obtain ⟨slave, origin, stored⟩ := bridged
  have listed := Names.mem_of_lookup stored
  have size := csrWindow_size sound.csr origin
  obtain ⟨window, member, inside⟩ := sound.bus.uncached _ listed rfl
  refine ⟨csrWindow soc.csr origin, slave, stored, ?_, rfl, size, ?_, window, member, ?_, inside⟩
  · exact (sound.bus.placed .bus _ listed).2
  · rw [size, sound.csr.capacity_mul_paging]
  · exact (sound.bus.placed .io _ member).1

theorem Sound.masterless (sound : soc.Sound) (free : soc.bus.slave? csrRegionName = none) :
    soc.csr.masters = [] := by
  by_contra some
  have slave := (sound.bridged some).1
  rw [free] at slave
  contradiction

theorem attachCsrMaster_ok (masterless : soc.csr.masters = []) :
    (onCsr (Csr.attachMaster (some "bridge") ⟨soc.csr.dataWidth⟩) soc).result = .ok "bridge" := by
  change (Csr.attachMaster (some "bridge") ⟨soc.csr.dataWidth⟩ soc.csr).result = _
  rw [Csr.result_attachMaster, Csr.chooseMaster_ok_iff, masterless]
  exact ⟨rfl, rfl, rfl⟩

theorem fault_of_addCsrBridge (sound : soc.Sound)
    (failed : (addCsrBridge origin soc).result = .error fault) : fault.subject ≠ .master := by
  have constants : (do
      install "csr_bridge" { kind := .csrBridge }
      configure "CSR_DATA_WIDTH" (.int soc.csr.dataWidth.toUInt64)
      configure "CSR_ALIGNMENT" (.int soc.csr.alignment.toUInt64) :
      Call Soc Unit).FailsOver [.constant] :=
    .bind (.of_succeeds .update) fun _ => .bind configure_failsOver fun _ => configure_failsOver
  unfold addCsrBridge at failed
  rcases Call.bind_ask_error_iff.mp failed with failed | ⟨_, -, failed⟩
  · exact requireNew_failsOver.subject_ne failed (by decide)
  rw [Call.bind_current_error_iff] at failed
  rcases Call.bind_error_iff.mp failed with failed | ⟨_, windowed, failed⟩
  · exact attachRegion_failsOver.subject_ne failed (by decide)
  -- the slave was free, so that the registers had no bridge, and without one no master
  obtain ⟨free, bus, -, moved⟩ := (attachRegion_runs rfl).done _ windowed
  have masterless : Csr.masters (Soc.csr { soc with bus }) = [] := sound.masterless free
  rw [moved] at failed
  rcases Call.bind_error_iff.mp failed with failed | ⟨_, -, failed⟩
  · rw [Call.discard_ok_iff.mpr ⟨_, attachCsrMaster_ok masterless⟩] at failed
    contradiction
  · exact constants.subject_ne failed (by decide)

/-- The registers are driven by their bridge or not at all, after any declarations: their one
master has a window on all of their pages, it is never refused for its name or its width, and
none but it comes into an address map. -/
theorem registers_driven_by_bridge (reached : soc.Reachable) :
    soc.BridgeOnly ∧
    (soc.csr.masters ≠ [] → ∃ region, soc.BridgeWindow region) ∧
    (∀ origin name, ((Declaration.csrBridge origin).perform soc).result ≠
      .error (.duplicateMasterName name)) ∧
    (∀ origin name actual expected, ((Declaration.csrBridge origin).perform soc).result ≠
      .error (.dataWidthMismatch name actual expected)) ∧
    ∀ map registers, soc.finalize.result = .ok map → map.csrInterconnect = some registers →
      registers.masters = ["bridge"] := by
  have spared : ∀ origin fault,
      ((Declaration.csrBridge origin).perform soc).result = .error fault →
        fault.subject ≠ .master := by
    intro origin fault refused
    exact fault_of_addCsrBridge reached.sound (Call.map_error_iff.mp refused)
  refine ⟨reached.bridgeOnly, fun some => reached.sound.bridgeWindow (reached.sound.bridged some),
    fun origin name refused => spared _ _ refused rfl,
    fun origin name actual expected refused => spared _ _ refused rfl, ?_⟩
  intro map registers finished connected
  obtain ⟨_, _, _, _, -, -, -, -, -, rfl⟩ := finalize_ok_iff.mp finished
  change soc.csrInterconnect = some registers at connected
  rcases reached.bridgeOnly with none | bridge
  · simp [csrInterconnect, none] at connected
  · simp only [csrInterconnect, bridge] at connected
    cases connected
    rfl

/-- A bridge that is refused for a constant leaves its window and its master behind, and is
the one master of the registers in the address map. -/
theorem registers_driven_by_refused_bridge : ∃ (soc : Soc) (region : Region) (map : AddressMap),
    ((Declaration.csrBridge 0xf0000000).perform soc).result =
      .error (.duplicateConstant "CONFIG_CSR_ALIGNMENT") ∧
    (soc.leave (.csrBridge 0xf0000000)).Reachable ∧
    (soc.leave (.csrBridge 0xf0000000)).csr.masters = [("bridge", ⟨32⟩)] ∧
    (soc.leave (.csrBridge 0xf0000000)).BridgeWindow region ∧
    (soc.leave (.csrBridge 0xf0000000)).finalize.result = .ok map ∧
    map.csrInterconnect.map (·.masters) = some ["bridge"] := by
  have evaluated : (do
      let soc ← run windowed [.setting "CSR_ALIGNMENT" (.int 64)]
      let map ← (soc.leave (.csrBridge 0xf0000000)).finalize
      pure (((Declaration.csrBridge 0xf0000000).perform soc).result,
        (soc.leave (.csrBridge 0xf0000000)).csr.masters, map.csrInterconnect.isSome) :
      Verdict (Except Fault Reply × List (String × Csr.Interface) × Bool)).result =
        .ok (.error (.duplicateConstant "CONFIG_CSR_ALIGNMENT"), [("bridge", ⟨32⟩)], true) := by
    decide +kernel
  simp only [Verdict.bind_ok_iff, Verdict.result_pure, Except.ok.injEq, Prod.mk.injEq] at evaluated
  obtain ⟨soc, ran, map, finished, refused, masters, connected⟩ := evaluated
  have reached := (reachable_of_run ran).declared (.csrBridge 0xf0000000)
  obtain ⟨-, windowed, -, -, drives⟩ := registers_driven_by_bridge reached
  obtain ⟨region, window⟩ := windowed (by simp [masters])
  obtain ⟨registers, connected⟩ := Option.isSome_iff_exists.mp connected
  have bridge := drives map registers finished connected
  refine ⟨soc, region, map, refused, reached, masters, window, finished, ?_⟩
  simp [connected, bridge]

end SystemOnChip.Soc
