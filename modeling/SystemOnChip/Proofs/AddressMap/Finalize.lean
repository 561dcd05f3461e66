import SystemOnChip.AddressMap.Finalize
import SystemOnChip.Proofs.Bus.Selection

/-! How finishing a system ends: each part of the address map is the answer to
the question that was asked for it, and the slaves of a sound bus always have
their decoders. -/
namespace SystemOnChip.Soc

variable {soc : Soc} {map : AddressMap}

theorem finalize_ok_iff : soc.finalize.result = .ok map ↔
    ∃ interconnect pages promoted constants,
      soc.busInterconnect.result = .ok interconnect ∧
      soc.csrPages.result = .ok pages ∧
      ((publish soc.csrConstants).completed soc.constants).result = .ok promoted ∧
      soc.requireBootRegions.result = .ok () ∧
      ((soc.connectLines soc.externalLines).completed promoted).result = .ok constants ∧
      map = {
        clockFrequency := soc.clockFrequency
        bus := soc.bus
        csr := soc.csr
        csrPages := pagesByOrigin pages
        irq := soc.irq
        constants
        busInterconnect := interconnect
        busErrorSink := soc.busErrorSink interconnect
        resetSource := soc.resetSource
        csrInterconnect := soc.csrInterconnect
        irqWires := irqWires soc.externalLines } := by
  simp only [finalize, Verdict.bind_ok_iff, Verdict.result_info, Verdict.result_pure,
    Except.ok.injEq]
  constructor
  · rintro ⟨_, _, interconnect, built, pages, paged, promoted, published, _, booted, constants,
      connected, rfl⟩
    exact ⟨interconnect, pages, promoted, constants, built, paged, published, booted, connected,
      rfl⟩
  · rintro ⟨interconnect, pages, promoted, constants, built, paged, published, booted, connected,
      rfl⟩
    exact ⟨(), trivial, interconnect, built, pages, paged, promoted, published, (), booted,
      constants, connected, rfl⟩

/-- The decoded slaves are those of the bus in their order, and each claims the
addresses that select it. -/
structure SlaveDecoders (bus : Bus) (slaves : List (String × Decoder)) : Prop where
  names : slaves.map (·.1) = bus.slaves.map (·.1)
  claims : ∀ slave ∈ slaves, ∀ address : UInt64,
    slave.2.claims address = bus.selects slave.1 address.toNat

theorem names_and_claims_of_related {bus : Bus} {attached : List (String × Bus.Attachment)}
    {slaves : List (String × Decoder)}
    (related : List.Forall₂ (fun slave decoded => decoded.1 = slave.1 ∧
      ∀ address : UInt64, decoded.2.claims address = bus.selects decoded.1 address.toNat)
      attached slaves) :
    slaves.map (·.1) = attached.map (·.1) ∧ ∀ slave ∈ slaves, ∀ address : UInt64,
      slave.2.claims address = bus.selects slave.1 address.toNat := by
  induction related with
  | nil => exact ⟨rfl, fun _ member => nomatch member⟩
  | cons holds _ ih =>
    obtain ⟨name, claims⟩ := holds
    obtain ⟨names, rest⟩ := ih
    constructor
    · rw [List.map_cons, List.map_cons, name, names]
    · intro other member
      rcases List.mem_cons.mp member with rfl | member
      · exact claims
      · exact rest other member

theorem decodedSlaves_ok (sound : soc.bus.Sound) :
    ∃ slaves, soc.decodedSlaves.result = .ok slaves ∧ SlaveDecoders soc.bus slaves := by
  have each : ∀ slave ∈ soc.bus.slaves, ∃ answer : String × Decoder,
      (do let decoder ← soc.bus.decoder slave.1; pure (slave.1, decoder) : Verdict _).result =
        .ok answer ∧
      (answer.1 = slave.1 ∧ ∀ address : UInt64,
        answer.2.claims address = soc.bus.selects answer.1 address.toNat) := by
    intro slave member
    obtain ⟨region, found⟩ := sound.slave_region (Names.mem_map_of_mem member)
    obtain ⟨decoder, built, claims⟩ := sound.decoder_ok found
    exact ⟨(slave.1, decoder), Verdict.bind_ok_iff.mpr ⟨decoder, built, rfl⟩, rfl, claims⟩
  obtain ⟨slaves, answered, related⟩ := Verdict.mapM_ok each
  obtain ⟨names, claims⟩ := names_and_claims_of_related related
  exact ⟨slaves, answered, names, claims⟩

/-- A bus with masters and slaves has an interconnect of just these slaves. -/
theorem busInterconnect_ok (sound : soc.bus.Sound) :
    ∃ slaves, SlaveDecoders soc.bus slaves ∧ soc.busInterconnect.result =
      .ok (if soc.bus.masters.isEmpty || soc.bus.slaves.isEmpty then none
        else some {
          masters := soc.bus.masters.map (·.1)
          slaves
          timeoutCycles := soc.bus.timeout }) := by
  obtain ⟨slaves, answered, decoded⟩ := decodedSlaves_ok sound
  refine ⟨slaves, decoded, Verdict.bind_ok_iff.mpr ⟨slaves, answered, ?_⟩⟩
  have same : slaves.isEmpty = soc.bus.slaves.isEmpty := by
    rw [← List.isEmpty_map, decoded.names, List.isEmpty_map]
  simp only [List.isEmpty_map, same]
  split <;> rfl

end SystemOnChip.Soc
