import SystemOnChip.Proofs.Bus.Steps
import SystemOnChip.Proofs.Constant
import SystemOnChip.Proofs.Csr
import SystemOnChip.Soc.Declaration

/-! The steps that a system takes. Each call that declares one thing moves the system
by such steps only, and where it succeeds changes just the part that it is about. -/
namespace SystemOnChip.Soc

/-- The registers are reached through a slave that has the window on all of
their pages as its region. -/
def Bridged (soc : Soc) : Prop :=
  (soc.bus.slave? csrRegionName).isSome ∧
    ∃ origin, soc.bus.regions.get? csrRegionName = some (csrWindow soc.csr origin)

inductive Step (soc : Soc) : Soc → Prop where
  | bus {bus} (moved : soc.bus.Step bus) : Step soc { soc with bus }
  | csrLocation {locations} (moved : soc.csr.locations.Step locations) :
      Step soc { soc with csr := { soc.csr with locations } }
  | csrMaster (bridged : soc.Bridged) (fresh : soc.csr.masters.lookup "bridge" = none) :
      Step soc { soc with
        csr := { soc.csr with
          masters := soc.csr.masters ++ [("bridge", ⟨soc.csr.dataWidth⟩)] } }
  | irqLocation {locations} (moved : soc.irq.locations.Step locations) :
      Step soc { soc with irq := { locations } }
  | constant {constants} (moved : soc.constants.Step constants) : Step soc { soc with constants }
  | peripheral {name peripheral} (fresh : soc.peripherals.contains name = false) :
      Step soc { soc with peripherals := soc.peripherals.insert name peripheral }
  | cpu {core} (fresh : soc.peripherals.contains "cpu" = false) :
      Step soc { soc with
        peripherals := soc.peripherals.insert "cpu" { kind := .cpu }
        cpu := some core }
  | controller {name} : Step soc { soc with controller := some name }
  | resetSource : Step soc { soc with resetSource := soc.controller <|> soc.resetSource }

/-- The locations of one space. -/
def locations (soc : Soc) : Space → LocationTable
  | .csr => soc.csr.locations
  | .irq => soc.irq.locations

/-- The system with other locations in one space. -/
def withLocations (soc : Soc) (space : Space) (locations : LocationTable) : Soc :=
  match space with
  | .csr => { soc with csr := { soc.csr with locations } }
  | .irq => { soc with irq := { locations } }

variable {soc : Soc} {name : String} {α : Type}

theorem locations_withLocations {space other : Space} {table : LocationTable} :
    (soc.withLocations space table).locations other =
      if other = space then table else soc.locations other := by
  cases space <;> cases other <;> rfl

theorem onBus_runs {call : Call Bus α} {post : α → Bus → Prop}
    (runs : call.Runs Bus.Step soc.bus post) : (onBus call).Runs Step soc fun value after =>
      ∃ bus, post value bus ∧ after = { soc with bus } :=
  .on runs rfl fun _ _ moved => .bus moved

theorem declareRegion_runs {region : Region} : (declareRegion name region).Runs Step soc
    fun stored after => (soc.bus.settle name region).result = .ok stored ∧
      after = { soc with bus := soc.bus.store name stored } := by
  refine .weaken (onBus_runs Bus.declareRegion_runs) ?_
  rintro stored _ ⟨_, ⟨settled, rfl⟩, rfl⟩
  exact ⟨settled, rfl⟩

theorem attachMaster_runs {wanted : Option String} {interface : Bus.Interface} :
    (attachMaster wanted interface).Runs Step soc fun answer after =>
      (soc.bus.chooseMaster wanted).result = .ok answer ∧ ∃ attachment,
        attachment.interface = interface ∧ after = { soc with
          bus := { soc.bus with masters := soc.bus.masters ++ [(answer, attachment)] } } := by
  refine .weaken (onBus_runs Bus.attachMaster_runs) ?_
  rintro answer _ ⟨_, ⟨chosen, attachment, same, rfl⟩, rfl⟩
  exact ⟨chosen, attachment, same, rfl⟩

theorem attachSlave_runs {wanted : Option String} {interface : Bus.Interface}
    {window : Option Region} : (attachSlave wanted interface window).Runs Step soc
      fun answer after => (soc.bus.chooseSlave wanted window).result = .ok answer ∧
        ∃ middle attachment, soc.bus.Prepared answer window middle ∧
          attachment.interface = interface ∧ after = { soc with
            bus := { middle with slaves := soc.bus.slaves ++ [(answer, attachment)] } } := by
  refine .weaken (onBus_runs Bus.attachSlave_runs) ?_
  rintro answer _ ⟨_, ⟨chosen, middle, attachment, prepared, same, rfl⟩, rfl⟩
  exact ⟨chosen, middle, attachment, prepared, same, rfl⟩

/-- Assigning a location changes the locations of its space alone. -/
theorem assign_runs_on {space : Space} {wanted : Option UInt32} {reuse : Bool}
    {post : UInt32 → LocationTable → Prop} (runs : (LocationTable.assign name wanted reuse).Runs
      LocationTable.Step (soc.locations space) post) :
    (assign space name wanted reuse).Runs Step soc fun slot after => ∃ table,
      post slot table ∧ after = soc.withLocations space table := by
  have inner : assign space name wanted reuse = (LocationTable.assign name wanted reuse).on
      (·.locations space) fun table soc => soc.withLocations space table := by
    cases space <;> rfl
  rw [inner]
  cases space with
  | csr => exact .on runs rfl fun _ _ moved => .csrLocation moved
  | irq => exact .on runs rfl fun _ _ moved => .irqLocation moved

theorem assign_runs {space : Space} {wanted : Option UInt32} {reuse : Bool} :
    (assign space name wanted reuse).Runs Step soc fun slot after => ∃ table,
      (soc.locations space).Assigns name wanted reuse slot table ∧
        after = soc.withLocations space table :=
  assign_runs_on LocationTable.assign_assigns

theorem claim_runs {space : Space} : (claim space name).Runs Step soc fun _ after => ∃ table,
    ((soc.locations space).Extends table ∧ (table.get? name).isSome) ∧
      after = soc.withLocations space table := by
  refine .weaken (.discard assign_runs) ?_
  rintro _ after ⟨slot, table, assigned, moved⟩
  exact ⟨table, ⟨assigned.grown, Option.isSome_iff_exists.mpr ⟨slot, assigned.known⟩⟩, moved⟩

theorem onConstants_runs {call : Call ConstantTable α} {post : α → ConstantTable → Prop}
    (runs : call.Runs ConstantTable.Step soc.constants post) :
    (onConstants call).Runs Step soc fun value after =>
      ∃ constants, post value constants ∧ after = { soc with constants } :=
  .on runs rfl fun _ _ moved => .constant moved

theorem define_runs {value : Constant} : (define name value).Runs Step soc fun _ after =>
    soc.constants.entries.contains (Text.upper name) = false ∧ after = { soc with
      constants := ⟨soc.constants.entries.insert (Text.upper name) value⟩ } := by
  refine .weaken (onConstants_runs ConstantTable.define_runs) ?_
  rintro _ _ ⟨_, ⟨fresh, rfl⟩, rfl⟩
  exact ⟨fresh, rfl⟩

theorem configure_runs {value : Constant} : (configure name value).Runs Step soc fun _ after =>
    let (name, value) := ConstantTable.setting name value
    soc.constants.entries.contains (Text.upper name) = false ∧ after = { soc with
      constants := ⟨soc.constants.entries.insert (Text.upper name) value⟩ } :=
  define_runs

/-- The one master that is ever attached to the registers has the width of their bus. -/
theorem attachCsrMaster_runs {interface : Csr.Interface} (bridged : soc.Bridged) :
    (onCsr (Csr.attachMaster (some "bridge") interface)).Runs Step soc fun _ after =>
      soc.csr.masters.lookup "bridge" = none ∧ after = { soc with
        csr := { soc.csr with masters := soc.csr.masters ++ [("bridge", interface)] } } := by
  have moves : ∀ name, (soc.csr.chooseMaster (some "bridge") interface).result = .ok name →
      Step soc { soc with
        csr := { soc.csr with masters := soc.csr.masters ++ [(name, interface)] } } := by
    intro name chosen
    obtain ⟨rfl, free, width⟩ := Csr.chooseMaster_ok_iff.mp chosen
    obtain rfl : interface = ⟨soc.csr.dataWidth⟩ := congrArg Csr.Interface.mk width
    exact .csrMaster bridged (Option.isNone_iff_eq_none.mp free)
  have attached := Csr.attachMaster_runs
    (fun before after => Step { soc with csr := before } { soc with csr := after }) moves
  refine .weaken (.on attached rfl fun _ _ moved => moved) ?_
  rintro answer _ ⟨_, ⟨chosen, rfl⟩, rfl⟩
  obtain ⟨rfl, free, -⟩ := Csr.chooseMaster_ok_iff.mp chosen
  exact ⟨Option.isNone_iff_eq_none.mp free, rfl⟩

/-- What follows the check for a new name runs under a name that is free. -/
theorem bind_requireNew {next : Unit → Call Soc α} {post : α → Soc → Prop}
    (rest : soc.peripherals.contains name = false → (next ()).Runs Step soc post) :
    (requireNew name >>= next).Runs Step soc post := by
  refine .bind_ask fun _ asked => ?_
  split at asked
  next => contradiction
  next absent => exact rest (Bool.eq_false_iff.mpr absent)

theorem install_runs {peripheral : Peripheral} (fresh : soc.peripherals.contains name = false) :
    (install name peripheral).Runs Step soc fun _ after =>
      after = { soc with peripherals := soc.peripherals.insert name peripheral } :=
  .update (.peripheral fresh)

theorem addPeripheral_runs {peripheral : Peripheral} :
    (addPeripheral name peripheral).Runs Step soc fun _ after =>
      soc.peripherals.contains name = false ∧
        after = { soc with peripherals := soc.peripherals.insert name peripheral } := by
  refine bind_requireNew fun fresh => ?_
  exact .weaken (install_runs fresh) fun _ _ moved => ⟨fresh, moved⟩

/-- A region that comes with an origin is stored as it is given, and its slave is new. -/
theorem attachRegion_stores {region : Region} (placed : region.origin.isSome) :
    (attachRegion name region).Runs Step soc fun _ after => soc.bus.slave? name = none ∧
      region.kind = .bus ∧ (soc.bus.settle name region).result = .ok region ∧
      ∃ attachment, attachment.interface = ⟨soc.bus.dataWidth⟩ ∧ after = { soc with
        bus := { soc.bus.store name region with
          slaves := soc.bus.slaves ++ [(name, attachment)] } } := by
  apply Call.Runs.bind_current
  refine .weaken (.discard attachSlave_runs) ?_
  rintro _ _ ⟨answer, chosen, _, attachment, ⟨stored, settled, rfl⟩, same, rfl⟩
  obtain ⟨-, rfl, free, decoded, -⟩ := Bus.chooseSlave_ok_iff.mp chosen
  obtain rfl := Bus.stored_of_settle settled placed
  exact ⟨Option.isNone_iff_eq_none.mp free, decoded _ rfl, settled, attachment, same, rfl⟩

/-- A region that comes with an origin is found under its name, and so is its slave. -/
theorem attachRegion_runs {region : Region} (placed : region.origin.isSome) :
    (attachRegion name region).Runs Step soc fun _ after => soc.bus.slave? name = none ∧
      ∃ bus : Bus, bus.Serves name region ∧ after = { soc with bus } := by
  refine .weaken (attachRegion_stores placed) ?_
  rintro _ _ ⟨free, kind, settled, attachment, -, rfl⟩
  refine ⟨free, _, ⟨?_, ?_⟩, rfl⟩
  · rw [Bus.slave?, Names.lookup_isSome_iff, List.map_append]
    exact List.mem_append_right _ List.mem_cons_self
  · exact (Bus.settled_of_settle settled).1.get?_store kind

end SystemOnChip.Soc
