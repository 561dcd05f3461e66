import SystemOnChip.Proofs.Bus.Soundness
import SystemOnChip.Proofs.Peripheral
import SystemOnChip.Proofs.Soc.Steps

/-! What each declaration does to a system. It moves the system by steps only, whether
it fails or not, and where it succeeds the system after it is told part by part. -/
namespace SystemOnChip.Soc

namespace Declaration

/-- The system that a declaration makes of another one when it succeeds. -/
def Effect (soc after : Soc) : Declaration → Prop
  | region name given => ∃ stored, (soc.bus.settle name given).result = .ok stored ∧
      after = { soc with bus := soc.bus.store name stored }
  | master wanted interface => ∃ name, (soc.bus.chooseMaster wanted).result = .ok name ∧
      ∃ attachment, attachment.interface = interface ∧ after = { soc with
        bus := { soc.bus with masters := soc.bus.masters ++ [(name, attachment)] } }
  | slave wanted interface window => ∃ name,
      (soc.bus.chooseSlave wanted window).result = .ok name ∧
      ∃ middle attachment, soc.bus.Prepared name window middle ∧
        attachment.interface = interface ∧ after = { soc with
          bus := { middle with slaves := soc.bus.slaves ++ [(name, attachment)] } }
  | location space name wanted reuse => ∃ slot table,
      (soc.locations space).Assigns name wanted reuse slot table ∧
      after = soc.withLocations space table
  | constant name value => soc.constants.entries.contains (Text.upper name) = false ∧
      after = { soc with
        constants := ⟨soc.constants.entries.insert (Text.upper name) value⟩ }
  | setting name value =>
      let (name, value) := ConstantTable.setting name value
      soc.constants.entries.contains (Text.upper name) = false ∧ after = { soc with
        constants := ⟨soc.constants.entries.insert (Text.upper name) value⟩ }
  | peripheral name component => soc.peripherals.contains name = false ∧
      after = { soc with peripherals := soc.peripherals.insert name component }
  | controller name => soc.peripherals.contains name = false ∧
      ∃ locations, (locations.get? name).isSome ∧ after = { soc with
        peripherals := soc.peripherals.insert name { kind := .controller }
        csr := { soc.csr with locations }
        controller := some name }
  | ram name origin size mode => soc.peripherals.contains name = false ∧
      ∃ bus : Bus, bus.Serves name { Region.fixed origin size with mode } ∧ after = { soc with
        bus
        peripherals := soc.peripherals.insert name
          { kind := if mode = .read then .rom else .ram } }
  | rom name origin size => soc.peripherals.contains name = false ∧
      ∃ bus : Bus, bus.Serves name { Region.fixed origin size with mode := .read } ∧
      after = { soc with bus, peripherals := soc.peripherals.insert name { kind := .rom } }
  | csrBridge origin => soc.peripherals.contains "csr_bridge" = false ∧
      ∃ (bus : Bus) (constants : ConstantTable),
        bus.Serves csrRegionName (csrWindow soc.csr origin) ∧
        soc.csr.masters.lookup "bridge" = none ∧ after = { soc with
          bus
          constants
          csr := { soc.csr with
            masters := soc.csr.masters ++ [("bridge", ⟨soc.csr.dataWidth⟩)] }
          peripherals := soc.peripherals.insert "csr_bridge" { kind := .csrBridge } }
  | cpu core => soc.peripherals.contains "cpu" = false ∧
      ∃ (bus : Bus) (locations lines : LocationTable) (constants : ConstantTable),
        (core.isNone = false →
          (∀ entry ∈ core.buses.zipIdx, bus.HasMaster s!"cpu_bus{entry.2}" entry.1) ∧
          (locations.get? "cpu").isSome ∧
          ∀ entry ∈ core.interrupts.entries, lines.get? entry.1 = some entry.2) ∧
        (∀ entry ∈ core.windows.zipIdx,
          bus.windows.get? s!"io{entry.2}" = some (Region.window entry.1.1 entry.1.2)) ∧
        after = { soc with
          bus
          constants
          csr := { soc.csr with locations }
          irq := { locations := lines }
          resetSource :=
            if core.isNone then soc.resetSource else soc.controller <|> soc.resetSource
          peripherals := soc.peripherals.insert "cpu" { kind := .cpu }
          cpu := some core }
  | timer name => soc.peripherals.contains name = false ∧
      ∃ locations lines, (locations.get? name).isSome ∧ (lines.get? name).isSome ∧
        after = { soc with
          peripherals := soc.peripherals.insert name { kind := .timer, eventSource := true }
          csr := { soc.csr with locations }
          irq := { locations := lines } }
  | identifier name text buildTime => soc.peripherals.contains name = false ∧
      ∃ locations, (locations.get? s!"{name}_mem").isSome ∧ after = { soc with
        peripherals := soc.peripherals.insert name {
          kind := .identifier (match buildTime with
            | some buildTime => s!"{text} {buildTime}"
            | none => text)
          memories := ["mem"] }
        csr := { soc.csr with locations } }
  | uart kind baudrate => soc.peripherals.contains "uart" = false ∧
      ∃ (bus : Bus) (parts : NameMap Peripheral) (locations lines : LocationTable),
        (locations.get? "uart_phy").isSome ∧ (locations.get? "uart").isSome ∧
        (lines.get? "uart").isSome ∧ after = { soc with
          bus
          peripherals := parts.insert "uart" { kind := .uart kind baudrate, eventSource := true }
          csr := { soc.csr with locations }
          irq := { locations := lines } }
  | sdram name geometry origin size _ => soc.peripherals.contains name = false ∧
      ∃ (capacity : UInt64) (bus : Bus) (locations : LocationTable) (constants : ConstantTable),
        geometry.size? = some capacity ∧ (locations.get? name).isSome ∧
        bus.Serves "main_ram" (Region.fixed origin (min capacity (size.getD capacity))) ∧
        after = { soc with
          bus
          constants
          csr := { soc.csr with locations }
          peripherals := soc.peripherals.insert name { kind := .sdram } }

end Declaration

open Declaration (Effect)
variable {soc : Soc} {name : String}

theorem addController_runs : (addController name).Runs Step soc fun _ after =>
    (Declaration.controller name).Effect soc after := by
  refine .bind addPeripheral_runs ?_
  rintro _ _ ⟨fresh, rfl⟩
  refine .bind claim_runs ?_
  rintro _ _ ⟨locations, ⟨-, known⟩, rfl⟩
  refine .weaken (.update .controller) ?_
  rintro _ _ rfl
  exact ⟨fresh, locations, known, rfl⟩

theorem addRam_runs {origin size : UInt64} {mode : AccessMode} :
    (addRam name origin size mode).Runs Step soc fun _ after =>
      (Declaration.ram name origin size mode).Effect soc after := by
  refine bind_requireNew fun fresh => ?_
  refine .bind (attachRegion_runs rfl) ?_
  rintro _ _ ⟨-, bus, serves, rfl⟩
  refine .bind (install_runs fresh) ?_
  rintro _ _ rfl
  refine .weaken .info ?_
  rintro _ _ rfl
  exact ⟨fresh, bus, serves, rfl⟩

/-- A master is attached to the registers only behind a bridge to all of them. -/
theorem addCsrBridge_runs {origin : UInt64} : (addCsrBridge origin).Runs Step soc
    fun _ after => (Declaration.csrBridge origin).Effect soc after := by
  refine bind_requireNew fun fresh => ?_
  apply Call.Runs.bind_current
  refine .bind (attachRegion_runs rfl) ?_
  rintro _ _ ⟨-, bus, ⟨slave, found⟩, rfl⟩
  refine .bind (.ignore (attachCsrMaster_runs ⟨slave, origin, found⟩)) ?_
  rintro _ _ ⟨free, rfl⟩
  refine .bind (install_runs fresh) ?_
  rintro _ _ rfl
  refine .bind configure_runs ?_
  rintro _ _ ⟨-, rfl⟩
  refine .weaken configure_runs ?_
  rintro _ _ ⟨-, rfl⟩
  exact ⟨fresh, bus, _, ⟨slave, found⟩, free, rfl⟩

section Processor

/-- One master for each interface, numbered. -/
theorem attachMasters_runs {entries : List (Bus.Interface × Nat)} :
    (entries.forM fun (interface, index) => do
      discard <| attachMaster (some s!"cpu_bus{index}") interface : Call Soc Unit).Runs Step soc
        fun _ after => ∃ bus : Bus, after = { soc with bus } ∧
          ∀ entry ∈ entries, bus.HasMaster s!"cpu_bus{entry.2}" entry.1 := by
  refine .forM_upTo (fun (done : List (Bus.Interface × Nat)) after => ∃ bus : Bus,
    after = { soc with bus } ∧ ∀ entry ∈ done, bus.HasMaster s!"cpu_bus{entry.2}" entry.1)
    ⟨soc.bus, rfl, fun _ member => nomatch member⟩ ?_
  rintro done entry _ ⟨bus, rfl, attached⟩
  refine .weaken (.discard attachMaster_runs) ?_
  rintro _ _ ⟨answer, chosen, attachment, same, rfl⟩
  obtain ⟨rfl, fresh⟩ := Bus.chooseMaster_ok_iff.mp chosen
  refine ⟨_, rfl, fun other member => ?_⟩
  rcases List.mem_append.mp member with earlier | last
  · obtain ⟨found, held, kept⟩ := attached other earlier
    exact ⟨found, Names.lookup_of_prefix (List.prefix_append _ _) held, kept⟩
  · rw [List.mem_singleton.mp last]
    exact ⟨attachment, Names.lookup_concat_of_isNone fresh, same⟩

/-- The lines that the processor uses itself get the numbers that it gives them. -/
theorem assignLines_runs {entries : List (String × UInt32)} :
    (entries.forM fun (name, line) => do
      discard <| assign .irq name (some line) false : Call Soc Unit).Runs Step soc
        fun _ after => ∃ lines, after = { soc with irq := { locations := lines } } ∧
          ∀ entry ∈ entries, lines.get? entry.1 = some entry.2 := by
  refine .forM_upTo (fun (done : List (String × UInt32)) after => ∃ lines,
    after = { soc with irq := { locations := lines } } ∧
      ∀ entry ∈ done, lines.get? entry.1 = some entry.2)
    ⟨soc.irq.locations, rfl, fun _ member => nomatch member⟩ ?_
  rintro done entry _ ⟨lines, rfl, recorded⟩
  refine .weaken (.discard assign_runs) ?_
  rintro _ _ ⟨slot, table, assigned, rfl⟩
  refine ⟨table, rfl, fun other member => ?_⟩
  rcases List.mem_append.mp member with earlier | last
  · exact assigned.grown.slots _ _ (recorded other earlier)
  · rw [List.mem_singleton.mp last, assigned.known, assigned.given rfl _ rfl]

/-- One io window for each pair of origin and size, numbered. -/
theorem declareWindows_runs {entries : List ((UInt64 × UInt64) × Nat)} :
    (entries.forM fun ((origin, size), index) => do
      discard <| declareRegion s!"io{index}" (Region.window origin size) : Call Soc Unit).Runs
        Step soc fun _ after => ∃ bus : Bus, after = { soc with bus } ∧
          bus.masters = soc.bus.masters ∧ ∀ entry ∈ entries,
            bus.windows.get? s!"io{entry.2}" = some (Region.window entry.1.1 entry.1.2) := by
  refine .forM_upTo (fun (done : List ((UInt64 × UInt64) × Nat)) after => ∃ bus : Bus,
    after = { soc with bus } ∧ bus.masters = soc.bus.masters ∧ ∀ entry ∈ done,
      bus.windows.get? s!"io{entry.2}" = some (Region.window entry.1.1 entry.1.2))
    ⟨soc.bus, rfl, rfl, fun _ member => nomatch member⟩ ?_
  rintro done entry _ ⟨bus, rfl, masters, declared⟩
  refine .weaken (.discard declareRegion_runs) ?_
  rintro _ _ ⟨stored, settled, rfl⟩
  obtain rfl := Bus.stored_of_settle settled rfl
  refine ⟨_, rfl, Bus.store_masters.trans masters, fun other member => ?_⟩
  rcases List.mem_append.mp member with earlier | last
  · exact RegionTable.get?_push_of_some (declared other earlier)
  · rw [List.mem_singleton.mp last]
    exact (Bus.settled_of_settle settled).1.get?_table_store

theorem addCore_runs {core : Cpu} : (addCore core).Runs Step soc fun _ after =>
    ∃ (bus : Bus) (locations lines : LocationTable) (constants : ConstantTable),
      (∀ entry ∈ core.buses.zipIdx, bus.HasMaster s!"cpu_bus{entry.2}" entry.1) ∧
      (locations.get? "cpu").isSome ∧
      (∀ entry ∈ core.interrupts.entries, lines.get? entry.1 = some entry.2) ∧
      after = { soc with
        bus
        constants
        csr := { soc.csr with locations }
        irq := { locations := lines }
        resetSource := soc.controller <|> soc.resetSource } := by
  refine .bind attachMasters_runs ?_
  rintro _ _ ⟨bus, rfl, masters⟩
  refine .bind claim_runs ?_
  rintro _ _ ⟨locations, ⟨-, known⟩, rfl⟩
  refine .bind assignLines_runs ?_
  rintro _ _ ⟨lines, rfl, recorded⟩
  refine .bind (.update .resetSource) ?_
  rintro _ _ rfl
  split
  · refine .weaken configure_runs ?_
    rintro _ _ ⟨-, rfl⟩
    exact ⟨bus, locations, lines, _, masters, known, recorded, rfl⟩
  · exact .pure ⟨bus, locations, lines, _, masters, known, recorded, rfl⟩

/-- The processor is entered together with its component, whose name is free. -/
theorem enterCpu_runs {core : Cpu} (fresh : soc.peripherals.contains "cpu" = false) :
    (enterCpu core).Runs Step soc fun _ after => ∃ (bus : Bus) (constants : ConstantTable),
      bus.masters = soc.bus.masters ∧
      (∀ entry ∈ core.windows.zipIdx,
        bus.windows.get? s!"io{entry.2}" = some (Region.window entry.1.1 entry.1.2)) ∧
      after = { soc with
        bus
        constants
        peripherals := soc.peripherals.insert "cpu" { kind := .cpu }
        cpu := some core } := by
  refine .bind declareWindows_runs ?_
  rintro _ _ ⟨bus, rfl, masters, windows⟩
  refine .bind configure_runs ?_
  rintro _ _ ⟨-, rfl⟩
  refine .bind configure_runs ?_
  rintro _ _ ⟨-, rfl⟩
  have entered : (do
      install "cpu" { kind := .cpu }
      .update fun soc => { soc with cpu := some core } : Call Soc Unit) =
        .update fun soc => { soc with
          peripherals := soc.peripherals.insert "cpu" { kind := .cpu }
          cpu := some core } := rfl
  rw [entered]
  refine .weaken (.update (.cpu fresh)) ?_
  rintro _ _ rfl
  exact ⟨bus, _, masters, windows, rfl⟩

theorem addCpu_runs {core : Cpu} : (addCpu core).Runs Step soc fun _ after =>
    (Declaration.cpu core).Effect soc after := by
  refine bind_requireNew fun fresh => ?_
  cases none : core.isNone with
  | false =>
    refine .bind addCore_runs ?_
    rintro _ _ ⟨bus, locations, lines, constants, masters, known, recorded, rfl⟩
    refine .weaken (enterCpu_runs fresh) ?_
    rintro _ _ ⟨last, constants, same, windows, rfl⟩
    refine ⟨fresh, last, locations, lines, constants, fun _ => ⟨?_, known, recorded⟩, windows, ?_⟩
    · intro entry member
      rw [Bus.HasMaster, Bus.master?, same]
      exact masters entry member
    · rw [none]
      rfl
  | true =>
    refine .weaken (enterCpu_runs fresh) ?_
    rintro _ _ ⟨bus, constants, -, windows, rfl⟩
    refine ⟨fresh, bus, soc.csr.locations, soc.irq.locations, constants, fun some => ?_, windows, ?_⟩
    · rw [none] at some
      contradiction
    · rw [none]
      rfl

end Processor

theorem addTimer_runs : (addTimer name).Runs Step soc fun _ after =>
    (Declaration.timer name).Effect soc after := by
  refine .bind addPeripheral_runs ?_
  rintro _ _ ⟨fresh, rfl⟩
  refine .bind claim_runs ?_
  rintro _ _ ⟨locations, ⟨-, known⟩, rfl⟩
  refine .weaken claim_runs ?_
  rintro _ _ ⟨lines, ⟨-, driven⟩, rfl⟩
  exact ⟨fresh, locations, lines, known, driven, rfl⟩

theorem addIdentifier_runs {text : String} {buildTime : Option String} :
    (addIdentifier name text buildTime).Runs Step soc fun _ after =>
      (Declaration.identifier name text buildTime).Effect soc after := by
  refine .bind addPeripheral_runs ?_
  rintro _ _ ⟨fresh, rfl⟩
  refine .weaken claim_runs ?_
  rintro _ _ ⟨locations, ⟨-, known⟩, rfl⟩
  exact ⟨fresh, locations, known, rfl⟩

theorem addUartParts_runs {kind : UartKind} (fresh : soc.peripherals.contains "uart" = false) :
    (addUartParts kind).Runs Step soc fun _ after =>
      ∃ (bus : Bus) (parts : NameMap Peripheral), parts.contains "uart" = false ∧
        after = { soc with bus, peripherals := parts } := by
  have bridge {parts : NameMap Peripheral} (fresh : parts.contains "uart" = false) :
      (if kind = .bridge then discard <| attachMaster (some "uart_bridge") ⟨32⟩ else pure () :
        Call Soc Unit).Runs Step { soc with peripherals := parts } fun _ after =>
          ∃ (bus : Bus) (parts : NameMap Peripheral), parts.contains "uart" = false ∧
            after = { soc with bus, peripherals := parts } := by
    split
    · refine .weaken (.discard attachMaster_runs) ?_
      rintro _ _ ⟨_, -, _, -, rfl⟩
      exact ⟨_, parts, fresh, rfl⟩
    · exact .pure ⟨soc.bus, parts, fresh, rfl⟩
  unfold addUartParts
  dsimp only
  split
  next =>
    refine .bind addPeripheral_runs ?_
    rintro _ _ ⟨-, rfl⟩
    apply bridge
    rw [NameMap.contains_insert, fresh]
    rfl
  next => exact bridge fresh

theorem addUart_runs {kind : UartKind} {baudrate : UInt32} :
    (addUart kind baudrate).Runs Step soc fun _ after =>
      (Declaration.uart kind baudrate).Effect soc after := by
  refine bind_requireNew fun fresh => ?_
  refine .bind (addUartParts_runs fresh) ?_
  rintro _ _ ⟨bus, parts, absent, rfl⟩
  refine .bind (install_runs absent) ?_
  rintro _ _ rfl
  refine .bind claim_runs ?_
  rintro _ _ ⟨first, ⟨-, phy⟩, rfl⟩
  refine .bind claim_runs ?_
  rintro _ _ ⟨locations, ⟨grown, known⟩, rfl⟩
  refine .weaken claim_runs ?_
  rintro _ _ ⟨lines, ⟨-, driven⟩, rfl⟩
  obtain ⟨slot, held⟩ := Option.isSome_iff_exists.mp phy
  have kept : (locations.get? "uart_phy").isSome :=
    Option.isSome_iff_exists.mpr ⟨slot, grown.slots _ _ held⟩
  exact ⟨fresh, bus, parts, locations, lines, kept, known, driven, rfl⟩

theorem addSdram_runs {geometry : SdramGeometry} {origin cacheSize : UInt64}
    {size : Option UInt64} : (addSdram name geometry origin size cacheSize).Runs Step soc
      fun _ after => (Declaration.sdram name geometry origin size cacheSize).Effect soc after := by
  refine bind_requireNew fun fresh => ?_
  refine .bind_ask fun capacity sized => ?_
  refine .bind (.discard assign_runs) ?_
  rintro _ _ ⟨slot, locations, assigned, rfl⟩
  refine .bind (attachRegion_runs rfl) ?_
  rintro _ _ ⟨-, bus, serves, rfl⟩
  refine .bind configure_runs ?_
  rintro _ _ ⟨-, rfl⟩
  refine .weaken (install_runs fresh) ?_
  rintro _ _ rfl
  have known : (locations.get? name).isSome := Option.isSome_iff_exists.mpr ⟨slot, assigned.known⟩
  exact ⟨fresh, capacity, bus, locations, _, SdramGeometry.size_ok_iff.mp sized, known, serves, rfl⟩

/-- A declaration moves the system by steps, and has its effect where it succeeds. -/
theorem perform_runs (declaration : Declaration) : declaration.perform.Runs Step soc
    fun _ after => declaration.Effect soc after := by
  cases declaration with
  | region => exact .map declareRegion_runs fun stored _ effect => ⟨stored, effect⟩
  | master => exact .map attachMaster_runs fun name _ effect => ⟨name, effect⟩
  | slave => exact .map attachSlave_runs fun name _ effect => ⟨name, effect⟩
  | location => exact .map assign_runs fun slot _ effect => ⟨slot, effect⟩
  | constant => exact .map define_runs fun _ _ effect => effect
  | setting => exact .map configure_runs fun _ _ effect => effect
  | peripheral => exact .map addPeripheral_runs fun _ _ effect => effect
  | controller => exact .map addController_runs fun _ _ effect => effect
  | ram => exact .map addRam_runs fun _ _ effect => effect
  | rom => exact .map addRam_runs fun _ _ effect => effect
  | csrBridge => exact .map addCsrBridge_runs fun _ _ effect => effect
  | cpu => exact .map addCpu_runs fun _ _ effect => effect
  | timer => exact .map addTimer_runs fun _ _ effect => effect
  | identifier => exact .map addIdentifier_runs fun _ _ effect => effect
  | uart => exact .map addUart_runs fun _ _ effect => effect
  | sdram => exact .map addSdram_runs fun _ _ effect => effect

end SystemOnChip.Soc
