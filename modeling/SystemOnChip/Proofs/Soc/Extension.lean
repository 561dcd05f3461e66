import SystemOnChip.Proofs.AddressMap.Constants
import SystemOnChip.Proofs.Soc.Soundness

/-! Nothing that is declared is lost or changed. Every step of a system, failed
calls included, extends its tables at the end and binds new names only, and so do
all steps together; finishing the system adds constants at most. -/
namespace SystemOnChip
open Relation (ReflTransGen)

theorem ConstantTable.Gains.within {table after : ConstantTable}
    {added : List (String × Constant)} (gained : table.Gains added after) :
    table.entries.Within after.entries := by
  intro name value bound
  rw [← NameMap.mem_entries_iff] at bound ⊢
  exact gained.mem_iff.mpr (List.mem_append_left _ bound)

namespace Bus
variable {bus middle after : Bus}

/-- Each list of the earlier bus begins that of the later one. -/
structure Extends (bus after : Bus) : Prop where
  regions : bus.regions.entries <+: after.regions.entries
  windows : bus.windows.entries <+: after.windows.entries
  linkerRegions : bus.linkerRegions.entries <+: after.linkerRegions.entries
  masters : bus.masters <+: after.masters
  slaves : bus.slaves <+: after.slaves

theorem Extends.refl : bus.Extends bus :=
  ⟨List.prefix_rfl, List.prefix_rfl, List.prefix_rfl, List.prefix_rfl, List.prefix_rfl⟩

theorem Extends.trans (first : bus.Extends middle) (second : middle.Extends after) :
    bus.Extends after where
  regions := first.regions.trans second.regions
  windows := first.windows.trans second.windows
  linkerRegions := first.linkerRegions.trans second.linkerRegions
  masters := first.masters.trans second.masters
  slaves := first.slaves.trans second.slaves

theorem Step.extends (moved : Step bus after) : bus.Extends after := by
  cases moved with
  | @region name given stored =>
    unfold store
    split
    · exact { Extends.refl with regions := List.prefix_append _ _ }
    · exact { Extends.refl with windows := List.prefix_append _ _ }
    · exact { Extends.refl with linkerRegions := List.prefix_append _ _ }
  | master => exact { Extends.refl with masters := List.prefix_append _ _ }
  | slave => exact { Extends.refl with slaves := List.prefix_append _ _ }

end Bus

namespace Soc
variable {soc middle after : Soc} {map : AddressMap}

/-- Each list of the earlier system begins that of the later one, and what it binds
to a name the later one binds alike. A processor stays the one it is. -/
structure Extends (soc after : Soc) : Prop where
  bus : soc.bus.Extends after.bus
  csrMasters : soc.csr.masters <+: after.csr.masters
  csrLocations : soc.csr.locations.Extends after.csr.locations
  irqLocations : soc.irq.locations.Extends after.irq.locations
  constants : soc.constants.entries.Within after.constants.entries
  peripherals : soc.peripherals.Within after.peripherals
  cpu : ∀ core, soc.cpu = some core → after.cpu = some core

theorem Extends.refl : soc.Extends soc :=
  ⟨.refl, List.prefix_rfl, .refl, .refl, .refl, .refl, fun _ entered => entered⟩

theorem Extends.trans (first : soc.Extends middle) (second : middle.Extends after) :
    soc.Extends after where
  bus := first.bus.trans second.bus
  csrMasters := first.csrMasters.trans second.csrMasters
  csrLocations := first.csrLocations.trans second.csrLocations
  irqLocations := first.irqLocations.trans second.irqLocations
  constants := first.constants.trans second.constants
  peripherals := first.peripherals.trans second.peripherals
  cpu core entered := second.cpu core (first.cpu core entered)

/-- A processor stands among the components, so that no second one is entered. -/
def Entered (soc : Soc) : Prop := ∀ core, soc.cpu = some core →
  soc.peripherals.contains "cpu" = true

theorem Entered.not_fresh (entered : soc.Entered) {core : Cpu} (present : soc.cpu = some core) :
    ¬ soc.peripherals.contains "cpu" = false := by
  rw [entered core present]
  exact Bool.noConfusion

theorem Step.extends (entered : soc.Entered) (moved : Step soc after) : soc.Extends after := by
  cases moved with
  | bus moved => exact { Extends.refl with bus := moved.extends }
  | csrLocation moved => exact { Extends.refl with csrLocations := moved.extends }
  | csrMaster => exact { Extends.refl with csrMasters := List.prefix_append _ _ }
  | irqLocation moved => exact { Extends.refl with irqLocations := moved.extends }
  | constant moved =>
    obtain ⟨fresh⟩ := moved
    exact { Extends.refl with constants := NameMap.within_insert fresh }
  | peripheral fresh => exact { Extends.refl with peripherals := NameMap.within_insert fresh }
  | cpu fresh =>
    exact { Extends.refl with
      peripherals := NameMap.within_insert fresh
      cpu := fun _ present => absurd fresh (entered.not_fresh present) }
  | controller => exact { Extends.refl with }
  | resetSource => exact { Extends.refl with }

theorem Entered.step (entered : soc.Entered) (moved : Step soc after) : after.Entered := by
  cases moved with
  | peripheral fresh =>
    intro core present
    rw [NameMap.contains_insert, entered core present, Bool.or_true]
  | cpu fresh =>
    intro core _
    rw [NameMap.contains_insert]
    rfl
  | bus | csrLocation | csrMaster | irqLocation | constant | controller | resetSource =>
    exact entered

theorem Entered.steps (entered : soc.Entered) (path : ReflTransGen Step soc after) :
    after.Entered ∧ soc.Extends after := by
  -- that a step extends a system needs the invariant of the one it starts from
  induction path with
  | refl => exact ⟨entered, .refl⟩
  | tail _ moved ih => exact ⟨ih.1.step moved, ih.2.trans (moved.extends ih.1)⟩

/-- A new system has the parts that its configuration describes, its clock
frequency among the constants, and nothing else. -/
theorem ofConfig_parts {config : Config} (accepted : (ofConfig config).result = .ok soc) :
    (Csr.ofConfig config.csr).result = .ok soc.csr ∧
      (Irq.ofConfig config.irq).result = .ok soc.irq ∧
      soc.cpu = none ∧ soc.controller = none ∧ soc.resetSource = none := by
  simp only [ofConfig, Verdict.bind_ok_iff, Verdict.result_info, Call.completed_ok_iff] at accepted
  obtain ⟨-, -, bus, -, csr, csrAccepted, irq, irqAccepted, -, -, -, created⟩ := accepted
  rw [← created]
  exact ⟨csrAccepted, irqAccepted, rfl, rfl, rfl⟩

theorem Reachable.entered (reached : soc.Reachable) : soc.Entered := by
  induction reached with
  | created accepted =>
    intro core present
    obtain ⟨-, -, none, -, -⟩ := ofConfig_parts accepted
    rw [none] at present
    contradiction
  | declared _ declaration ih => exact (ih.steps (perform_runs declaration).path).1

theorem Reachable.extends_leave (reached : soc.Reachable) (declaration : Declaration) :
    soc.Extends (soc.leave declaration) :=
  (reached.entered.steps (perform_runs declaration).path).2

theorem Reachable.extends_foldl (reached : soc.Reachable) (declarations : List Declaration) :
    soc.Extends (declarations.foldl leave soc) :=
  have path : ReflTransGen Step soc (declarations.foldl leave soc) :=
    Call.path_of_foldl (fun _ declaration => (perform_runs declaration).path) declarations
  (reached.entered.steps path).2

/-- All that a name stands for in the earlier system it stands for in the later one. -/
structure Remembers (after soc : Soc) : Prop where
  region : ∀ kind name region, (soc.bus.table kind).get? name = some region →
    (after.bus.table kind).get? name = some region
  master : ∀ name attachment, soc.bus.master? name = some attachment →
    after.bus.master? name = some attachment
  slave : ∀ name attachment, soc.bus.slave? name = some attachment →
    after.bus.slave? name = some attachment
  csrMaster : ∀ name interface, soc.csr.masters.lookup name = some interface →
    after.csr.masters.lookup name = some interface
  csrLocation : ∀ name slot, soc.csr.locations.get? name = some slot →
    after.csr.locations.get? name = some slot
  irqLocation : ∀ name line, soc.irq.locations.get? name = some line →
    after.irq.locations.get? name = some line
  constant : ∀ name value, soc.constants.get? name = some value →
    after.constants.get? name = some value
  peripheral : ∀ name component, soc.peripheral? name = some component →
    after.peripheral? name = some component
  cpu : ∀ core, soc.cpu = some core → after.cpu = some core

theorem Extends.remembers (grown : soc.Extends after) : after.Remembers soc where
  region kind _ _ found := by
    cases kind with
    | bus => exact Names.lookup_of_prefix grown.bus.regions found
    | io => exact Names.lookup_of_prefix grown.bus.windows found
    | linker => exact Names.lookup_of_prefix grown.bus.linkerRegions found
  master _ _ found := Names.lookup_of_prefix grown.bus.masters found
  slave _ _ found := Names.lookup_of_prefix grown.bus.slaves found
  csrMaster _ _ found := Names.lookup_of_prefix grown.csrMasters found
  csrLocation := grown.csrLocations.slots
  irqLocation := grown.irqLocations.slots
  constant name := grown.constants (Text.upper name)
  peripheral := grown.peripherals
  cpu := grown.cpu

/-- The map of a finished system shows its parts as they were declared. -/
structure Shows (map : AddressMap) (soc : Soc) : Prop where
  bus : map.bus = soc.bus
  irq : map.irq = soc.irq
  csrLocations : map.csr.locations = soc.csr.locations
  csrMasters : map.csr.masters = soc.csr.masters
  constants : soc.constants.entries.Within map.constants.entries

theorem shows_of_finalize (finished : soc.finalize.result = .ok map) : Shows map soc := by
  have gained := constants_of_finalize finished
  obtain ⟨_, _, _, _, -, -, -, -, -, rfl⟩ := finalize_ok_iff.mp finished
  exact ⟨rfl, rfl, rfl, rfl, gained.within⟩

/-- A declaration, refused or not, only extends a system, and finishing the system
keeps all of it. So whatever a name stands for at some point of a run it stands for
ever after. -/
theorem declared_for_good (reached : soc.Reachable) :
    (∀ declaration, soc.Extends (soc.leave declaration)) ∧
    (∀ map, soc.finalize.result = .ok map → Shows map soc) ∧
    ∀ declarations : List Declaration, (declarations.foldl leave soc).Remembers soc :=
  ⟨reached.extends_leave, fun _ => shows_of_finalize,
    fun declarations => (reached.extends_foldl declarations).remembers⟩

/-- A processor whose window is refused leaves its bus master behind, and takes
nothing from what was there. -/
theorem extends_of_refused_cpu : ∃ (soc : Soc) (core : Cpu), soc.Reachable ∧
    ((Declaration.cpu core).perform soc).result = .error (.duplicateRegionName "io0") ∧
    (soc.leave (.cpu core)).bus.masters.map (·.1) = ["master0", "cpu_bus0"] ∧
    soc.Extends (soc.leave (.cpu core)) := by
  let core : Cpu := { name := "core", buses := [⟨64⟩], windows := [(0, 0x1000)] }
  have evaluated : (do
      let soc ← run windowed [.controller "ctrl", .master none ⟨32⟩]
      pure (((Declaration.cpu core).perform soc).result,
        (soc.leave (.cpu core)).bus.masters.map (·.1)) :
      Verdict (Except Fault Reply × List String)).result =
        .ok (.error (.duplicateRegionName "io0"), ["master0", "cpu_bus0"]) := by
    decide +kernel
  simp only [Verdict.bind_ok_iff, Verdict.result_pure, Except.ok.injEq, Prod.mk.injEq] at evaluated
  obtain ⟨soc, ran, refused, masters⟩ := evaluated
  have reached := reachable_of_run ran
  exact ⟨soc, core, reached, refused, masters, (declared_for_good reached).1 _⟩

end Soc

end SystemOnChip
