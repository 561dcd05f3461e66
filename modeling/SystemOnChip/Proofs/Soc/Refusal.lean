import SystemOnChip.Proofs.Soc.Atomicity
import SystemOnChip.Proofs.Soc.Marks

/-! Refused declarations. One that adds a component declares several things one after the
other and takes none of them back. It leaves the system as it found it just where the first
of these things that the system does not have yet is the one that is refused. -/
namespace SystemOnChip

section Processor
variable (core : Cpu) (soc : Soc)

/-- The first of the windows, or without any the type of the processor, is refused. -/
def Cpu.EntryRefused : Prop :=
  match core.windows with
  | (origin, size) :: _ => (Soc.declareRegion "io0" (Region.window origin size)).Fails soc
  | [] => (Soc.configure "CPU_TYPE" (.str core.name)).Fails soc

/-- The reset address is refused, or without one what comes behind it. -/
def Cpu.ResetRefused : Prop :=
  match core.resetAddress with
  | some address => (Soc.configure "CPU_RESET_ADDR" (.int address)).Fails soc
  | none => core.EntryRefused soc

/-- The first of the lines is refused; without any the reset source has to be what it
was, and the reset is refused. -/
def Cpu.LinesRefused : Prop :=
  match core.interrupts.entries with
  | (name, line) :: _ => (Soc.assign .irq name (some line) false).Fails soc
  | [] => (soc.controller <|> soc.resetSource) = soc.resetSource ∧ core.ResetRefused soc

/-- The first of the masters is refused, or without any the location of the registers,
unless that is reserved and what comes behind it is refused. -/
def Cpu.CoreRefused : Prop :=
  match core.buses with
  | interface :: _ => (Soc.attachMaster (some "cpu_bus0") interface).Fails soc
  | [] => (Soc.claim .csr "cpu").Fails soc ∨
      (soc.csr.locations.get? "cpu").isSome ∧ core.LinesRefused soc

end Processor

namespace Soc

/-- A declaration that is refused is refused before it has changed anything: for the name
of its component, or with the first part that would have changed something. -/
def Declaration.RefusedAtOnce (soc : Soc) : Declaration → Prop
  | controller name | timer name | identifier name _ _ => soc.peripherals.contains name = true
  | csrBridge origin => soc.peripherals.contains "csr_bridge" = true ∨
      (attachRegion csrRegionName (csrWindow soc.csr origin)).Fails soc
  | cpu core => soc.peripherals.contains "cpu" = true ∨
      if core.isNone then core.EntryRefused soc else core.CoreRefused soc
  | uart kind _ => soc.peripherals.contains "uart" = true ∨
      kind.hasPhy = true ∧ soc.peripherals.contains "uart_phy" = true ∨
      kind = .bridge ∧ (attachMaster (some "uart_bridge") ⟨32⟩).Fails soc
  | sdram name geometry _ _ _ => soc.peripherals.contains name = true ∨ geometry.size? = none ∨
      (assign .csr name none false).Fails soc
  | region .. | master .. | slave .. | location .. | constant .. | setting .. | peripheral ..
  | ram .. | rom .. => True

variable {α : Type} {soc : Soc} {mark : Mark} {name : String} {condition : Prop}

theorem requireNew_fails_iff : (requireNew name).Fails soc ↔ soc.peripherals.contains name = true := by
  cases held : soc.peripherals.contains name <;>
    simp [Call.Fails, requireNew, Call.ask, held]

theorem requireNew_spares {next : Unit → Call Soc α}
    (rest : soc.peripherals.contains name = false → (next ()).SparesIf soc condition) :
    (requireNew name >>= next).SparesIf soc
      (soc.peripherals.contains name = true ∨ condition) := by
  refine .congr (.bind_idle rfl fun _ ended => rest ?_) (or_congr_left requireNew_fails_iff)
  refine Bool.eq_false_iff.mpr fun held => ?_
  exact (requireNew_fails_iff.mpr held).not_ok ended

theorem addPeripheral_fails_iff {peripheral : Peripheral} :
    (addPeripheral name peripheral).Fails soc ↔ soc.peripherals.contains name = true := by
  cases held : soc.peripherals.contains name <;>
    simp [Call.Fails, addPeripheral, requireNew, install, Call.ask, Call.update, Bind.bind,
      Call.bind, held]

theorem addPeripheral_spares {peripheral : Peripheral} {next : Unit → Call Soc α}
    (keeps : ∀ value, (next value).Keeps (Mark.component name).On) :
    (addPeripheral name peripheral >>= next).SparesIf soc
      (soc.peripherals.contains name = true) :=
  .congr (.bind_marks addPeripheral_atomic addPeripheral_marks keeps) addPeripheral_fails_iff

theorem addController_spares :
    (addController name).SparesIf soc (soc.peripherals.contains name = true) :=
  addPeripheral_spares fun _ => .bind claim_keeps fun _ => .update fun _ borne => borne

theorem addTimer_spares : (addTimer name).SparesIf soc (soc.peripherals.contains name = true) :=
  addPeripheral_spares fun _ => .bind claim_keeps fun _ => claim_keeps

theorem addIdentifier_spares {text : String} {buildTime : Option String} :
    (addIdentifier name text buildTime).SparesIf soc (soc.peripherals.contains name = true) :=
  addPeripheral_spares fun _ => claim_keeps

theorem addCsrBridge_spares {origin : UInt64} : (addCsrBridge origin).SparesIf soc
    ((Declaration.csrBridge origin).RefusedAtOnce soc) := by
  refine requireNew_spares fun _ => ?_
  apply Call.SparesIf.bind_current
  refine .bind_marks attachRegion_atomic attachRegion_marks fun _ => ?_
  refine .bind (.map attachCsrMaster_keeps) fun _ => .bind install_keeps fun _ => ?_
  exact .bind configure_keeps fun _ => configure_keeps

theorem addSdram_spares {geometry : SdramGeometry} {origin cacheSize : UInt64}
    {size : Option UInt64} : (addSdram name geometry origin size cacheSize).SparesIf soc
      ((Declaration.sdram name geometry origin size cacheSize).RefusedAtOnce soc) := by
  have oversized : (Call.ask fun _ => geometry.size : Call Soc UInt64).Fails soc ↔
      geometry.size? = none := by
    cases sized : geometry.size? <;> simp [Call.Fails, Call.ask, SdramGeometry.size, sized]
  refine requireNew_spares fun _ => ?_
  refine .congr (.bind_idle rfl fun capacity _ => ?_) (or_congr_left oversized)
  refine .bind_map_marks assign_atomic assign_new_marks fun _ => ?_
  exact .bind attachRegion_keeps fun _ => .bind configure_keeps fun _ => install_keeps

theorem addUart_spares {kind : UartKind} {baudrate : UInt32} : (addUart kind baudrate).SparesIf soc
    ((Declaration.uart kind baudrate).RefusedAtOnce soc) := by
  have claims {mark : Mark} : (do
      claim .csr "uart_phy"
      claim .csr "uart"
      claim .irq "uart" : Call Soc Unit).Keeps mark.On :=
    .bind claim_keeps fun _ => .bind claim_keeps fun _ => claim_keeps
  refine requireNew_spares fun fresh => ?_
  unfold addUartParts
  by_cases physical : kind.hasPhy = true
  · have other : kind ≠ .bridge := by
      rintro rfl
      contradiction
    simp only [physical, other, if_true, if_false, true_and, false_and, or_false, bind_assoc,
      pure_bind]
    exact addPeripheral_spares fun _ => .bind install_keeps fun _ => claims
  · by_cases bridge : kind = .bridge
    · simp only [bridge, UartKind.hasPhy, Bool.false_eq_true, if_true, if_false, true_and,
        false_and, false_or]
      refine .bind_map_marks attachMaster_atomic attachMaster_marks fun _ => ?_
      exact .bind install_keeps fun _ => claims
    · simp only [physical, bridge, Bool.false_eq_true, if_false, false_and, or_false, pure_bind]
      refine .congr (.bind_marks (.of_succeeds .update) (install_marks fresh) fun _ => claims) ?_
      exact iff_false_intro fun fails => fails.not_ok rfl

section Processor
variable {core : Cpu}

theorem enterCpu_spares : (enterCpu core).SparesIf soc (core.EntryRefused soc) := by
  have entered {mark : Mark} : (do
      configure "CPU_VARIANT" (.str core.baseVariant)
      install "cpu" { kind := .cpu }
      .update fun soc => { soc with cpu := some core } : Call Soc Unit).Keeps mark.On := by
    refine .bind configure_keeps fun _ => .bind install_keeps fun _ => .update fun soc borne => ?_
    cases mark <;> exact borne
  unfold enterCpu Cpu.EntryRefused
  cases core.windows with
  | nil => exact .bind_marks configure_atomic configure_marks fun _ => entered
  | cons window rest =>
    refine .congr (.bind_forM_marks (.map declareRegion_atomic) (.map declareRegion_marks)
      (fun _ => .map declareRegion_keeps) fun _ => ?_) Call.fails_map
    exact .bind configure_keeps fun _ => entered

/-- What is declared for a processor from its reset address on. -/
def startCpu (core : Cpu) : Call Soc Unit := do
  if let some address := core.resetAddress then
    configure "CPU_RESET_ADDR" (.int address)
  enterCpu core

theorem startCpu_keeps {mark : Mark} : (startCpu core).Keeps mark.On := by
  unfold startCpu
  cases core.resetAddress with
  | none => exact enterCpu_keeps
  | some address => exact .bind configure_keeps fun _ => enterCpu_keeps

theorem startCpu_spares : (startCpu core).SparesIf soc (core.ResetRefused soc) := by
  unfold startCpu Cpu.ResetRefused
  cases core.resetAddress with
  | none => exact enterCpu_spares
  | some address => exact .bind_marks configure_atomic configure_marks fun _ => enterCpu_keeps

/-- What is declared for a processor from the lines on that it uses itself. -/
def driveCpu (core : Cpu) : Call Soc Unit := do
  core.interrupts.entries.forM fun (name, line) => do
    discard <| assign .irq name (some line) false
  .update fun soc => { soc with resetSource := soc.controller <|> soc.resetSource }
  startCpu core

theorem driveCpu_keeps {mark : Mark} (other : ∀ source, mark ≠ .resetSource source) :
    (driveCpu core).Keeps mark.On := by
  refine .bind (.forM fun _ => .map assign_keeps) fun _ => ?_
  exact .bind (reset_keeps other) fun _ => startCpu_keeps

/-- The reset source moves only to a controller that it was not on. -/
theorem reset_spares {next : Unit → Call Soc α} (spares : (next ()).SparesIf soc condition)
    (keeps : ∀ source, (next ()).Keeps (Mark.resetSource source).On) :
    (Call.update (fun soc : Soc => { soc with
      resetSource := soc.controller <|> soc.resetSource }) >>= next).SparesIf soc
        ((soc.controller <|> soc.resetSource) = soc.resetSource ∧ condition) := by
  by_cases same : (soc.controller <|> soc.resetSource) = soc.resetSource
  · have idle : { soc with resetSource := soc.controller <|> soc.resetSource } = soc := by rw [same]
    refine .congr (.bind_idle idle fun _ _ => spares) ?_
    rw [or_iff_right fun fails => fails.not_ok rfl, and_iff_right same]
  · have marks : (Call.update fun soc : Soc => { soc with
        resetSource := soc.controller <|> soc.resetSource }).Marks soc
          (Mark.resetSource (soc.controller <|> soc.resetSource)).On :=
      fun _ _ => ⟨Ne.symm same, rfl⟩
    refine .congr (.bind_marks (.of_succeeds .update) marks fun _ => keeps _) ?_
    exact iff_of_false (fun fails => fails.not_ok rfl) fun both => same both.1

theorem driveCpu_spares : (driveCpu core).SparesIf soc (core.LinesRefused soc) := by
  unfold driveCpu Cpu.LinesRefused
  cases core.interrupts.entries with
  | nil =>
    rw [List.forM_eq_forM, List.forM_nil, pure_bind]
    exact reset_spares startCpu_spares fun _ => startCpu_keeps
  | cons entry rest =>
    refine .congr (.bind_forM_marks (.map assign_atomic) (.map assign_new_marks)
      (fun _ => .map assign_keeps) fun _ => ?_) Call.fails_map
    exact .bind (reset_keeps (by nofun)) fun _ => startCpu_keeps

theorem claim_spares {space : Space} {next : Unit → Call Soc α}
    (spares : (next ()).SparesIf soc condition)
    (keeps : (next ()).Keeps (Mark.location space name).On) :
    (claim space name >>= next).SparesIf soc ((claim space name).Fails soc ∨
      ((soc.locations space).get? name).isSome ∧ condition) := by
  cases held : (soc.locations space).get? name with
  | some slot =>
    have idle : (claim space name soc).state = soc := by
      refine Call.state_map.trans ?_
      rw [state_assign, (LocationTable.assign_of_known none held).2]
      cases space <;> rfl
    refine .congr (.bind_idle idle fun _ _ => spares) ?_
    simp only [Option.isSome_some, true_and]
  | none =>
    refine .congr (.bind_marks (.map assign_atomic) (.map (assign_marks held)) fun _ => keeps) ?_
    simp only [Option.isSome_none, Bool.false_eq_true, false_and, or_false]

theorem addCore_enterCpu : (do addCore core; enterCpu core) = (do
    core.buses.zipIdx.forM fun (interface, index) => do
      discard <| attachMaster (some s!"cpu_bus{index}") interface
    claim .csr "cpu"
    driveCpu core : Call Soc Unit) := by
  cases reset : core.resetAddress <;>
    simp only [addCore, driveCpu, startCpu, reset, bind_assoc, pure_bind]

theorem addCpu_spares : (addCpu core).SparesIf soc ((Declaration.cpu core).RefusedAtOnce soc) := by
  refine requireNew_spares fun fresh => ?_
  cases none : core.isNone with
  | true => exact enterCpu_spares
  | false =>
    change (addCore core >>= fun _ => enterCpu core).SparesIf soc (core.CoreRefused soc)
    rw [addCore_enterCpu]
    unfold Cpu.CoreRefused
    cases core.buses with
    | nil =>
      -- a location that is there stays as it is, so the lines may be the first to change
      exact claim_spares driveCpu_spares (driveCpu_keeps (by nofun))
    | cons interface rest =>
      have first : s!"cpu_bus{0}" = "cpu_bus0" := rfl
      refine .congr (.bind_forM_marks (.map attachMaster_atomic) (.map attachMaster_marks)
        (fun _ => .map attachMaster_keeps) fun _ => ?_) ?_
      · exact .bind claim_keeps fun _ => driveCpu_keeps (by nofun)
      · dsimp only
        rw [first]
        exact Call.fails_map

end Processor

/-- A refused declaration leaves the system as it found it just where it is refused at
once. -/
theorem spared_iff_refused_at_once (soc : Soc) (declaration : Declaration)
    (refused : declaration.perform.Fails soc) :
    soc.leave declaration = soc ↔ declaration.RefusedAtOnce soc := by
  suffices spares : declaration.perform.SparesIf soc (declaration.RefusedAtOnce soc) from
    spares refused
  cases declaration with
  | controller => exact .map addController_spares
  | csrBridge => exact .map addCsrBridge_spares
  | cpu => exact .map addCpu_spares
  | timer => exact .map addTimer_spares
  | identifier => exact .map addIdentifier_spares
  | uart => exact .map addUart_spares
  | sdram => exact .map addSdram_spares
  | region | master | slave | location | constant | setting | peripheral | ram | rom =>
    exact .of_atomic (perform_atomic trivial)

/-- A main memory that is not aligned is refused behind the location of its registers,
which stays. -/
theorem refused_memory_changes_system : ∃ soc : Soc, soc.Reachable ∧
    let declaration := Declaration.sdram "sdram" ⟨3, 13, 10, 16, 128⟩ 0x80000 none 0
    (declaration.perform soc).result =
      .error (.misalignedRegion "main_ram" (some 0x80000) 0x8000000) ∧
    soc.leave declaration ≠ soc := by
  let declaration := Declaration.sdram "sdram" ⟨3, 13, 10, 16, 128⟩ 0x80000 none 0
  have evaluated : (do
      let soc ← run windowed []
      pure ((declaration.perform soc).result, soc.peripherals.contains "sdram",
        (assign .csr "sdram" none false soc).result) :
      Verdict (Except Fault Reply × Bool × Except Fault UInt32)).result =
        .ok (.error (.misalignedRegion "main_ram" (some 0x80000) 0x8000000), false, .ok 0) := by
    decide +kernel
  simp only [Verdict.bind_ok_iff, Verdict.result_pure, Except.ok.injEq, Prod.mk.injEq] at evaluated
  obtain ⟨soc, ran, refused, fresh, assigned⟩ := evaluated
  refine ⟨soc, reachable_of_run ran, refused, fun same => ?_⟩
  rcases (spared_iff_refused_at_once soc declaration ⟨_, refused⟩).mp same with
    known | oversized | fails
  · rw [fresh] at known
    contradiction
  · exact absurd oversized (by decide)
  · exact fails.not_ok assigned

/-- A timer for which there is no interrupt line is refused, and stays among the
components. -/
theorem refused_timer_stays : ∃ soc : Soc,
    (run { irq := { count := 0 } } []).result = .ok soc ∧
    ((Declaration.timer "timer0").perform soc).result = .error (.capacityExhausted "IRQ" 0) ∧
    soc.peripherals.contains "timer0" = false ∧
    (soc.leave (.timer "timer0")).peripherals.contains "timer0" = true ∧
    soc.leave (.timer "timer0") ≠ soc := by
  have evaluated : (do
      let soc ← run { irq := { count := 0 } } []
      pure (((Declaration.timer "timer0").perform soc).result,
        soc.peripherals.contains "timer0",
        (soc.leave (.timer "timer0")).peripherals.contains "timer0") :
      Verdict (Except Fault Reply × Bool × Bool)).result =
        .ok (.error (.capacityExhausted "IRQ" 0), false, true) := by
    decide +kernel
  simp only [Verdict.bind_ok_iff, Verdict.result_pure, Except.ok.injEq, Prod.mk.injEq] at evaluated
  obtain ⟨soc, ran, refused, absent, stays⟩ := evaluated
  refine ⟨soc, ran, refused, absent, stays, fun same => ?_⟩
  rw [same, absent] at stays
  contradiction

end Soc

end SystemOnChip
