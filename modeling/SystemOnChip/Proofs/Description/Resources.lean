import SystemOnChip.Proofs.AddressMap.Pages
import SystemOnChip.Proofs.Description.Composition

/-! What a composed system has for each component of its description, wherever that
stands among the others: its regions, masters and slaves, its locations, and the entry
under its name. -/
namespace SystemOnChip

/-- The stored region is the given one, at an origin that was chosen for it if it came
without one. -/
def Region.IsStored (given stored : Region) : Prop :=
  ∃ origin, stored = { given with origin := some origin } ∧
    ∀ wanted, given.origin = some wanted → origin = wanted

namespace Bus
variable {bus after : Bus} {name : String} {given stored region : Region} {interface : Interface}

theorem isStored_of_settle (settled : (bus.settle name given).result = .ok stored) :
    given.IsStored stored := by
  obtain ⟨-, -, ⟨origin, origin_eq, rfl, -⟩ | ⟨unplaced, kind, placed, found, rfl⟩⟩ :=
    settle_ok_iff.mp settled
  · refine ⟨origin, by rw [← origin_eq], fun wanted same => ?_⟩
    exact Option.some.inj (origin_eq.symm.trans same)
  · obtain ⟨-, -, chosen, rfl, -⟩ := Placement.place_sound found
    refine ⟨chosen, ?_, fun wanted placed => ?_⟩
    · rw [Region.mk.injEq]
      exact ⟨rfl, rfl, rfl, rfl, kind.symm⟩
    · rw [unplaced] at placed
      contradiction

theorem Extends.serves (grown : bus.Extends after) (serves : bus.Serves name region) :
    after.Serves name region := by
  obtain ⟨slave, found⟩ := serves
  obtain ⟨attachment, attached⟩ := Option.isSome_iff_exists.mp slave
  refine ⟨Option.isSome_iff_exists.mpr ⟨attachment, ?_⟩, ?_⟩
  · exact Names.lookup_of_prefix grown.slaves attached
  · exact Names.lookup_of_prefix grown.regions found

theorem Extends.hasMaster (grown : bus.Extends after) (attached : bus.HasMaster name interface) :
    after.HasMaster name interface := by
  obtain ⟨attachment, found, same⟩ := attached
  exact ⟨attachment, Names.lookup_of_prefix grown.masters found, same⟩

end Bus

namespace Soc
open Description (Declared)

/-- The name has a location in the space. -/
def Locates (soc : Soc) (space : Space) (name : String) : Prop :=
  ((soc.locations space).get? name).isSome

/-- What belongs to a component is there, as the component asks for it. -/
def Provides (soc : Soc) : Component → Prop
  | .controller name => soc.peripheral? name = some { kind := .controller } ∧
      soc.Locates .csr name
  | .cpu core => soc.peripheral? "cpu" = some { kind := .cpu } ∧ soc.cpu = some core ∧
      (core.name ≠ "none" →
        (∀ (index : Nat) interface, core.buses[index]? = some interface →
          soc.bus.HasMaster s!"cpu_bus{index}" interface) ∧
        soc.Locates .csr "cpu" ∧
        ∀ name line, core.interrupts.get? name = some line →
          soc.irq.locations.get? name = some line) ∧
      ∀ (index : Nat) origin size, core.windows[index]? = some (origin, size) →
        soc.bus.windows.get? s!"io{index}" =
          some { origin := some origin, size, mode := .readWrite, cached := false, kind := .io }
  | .ram name origin size mode =>
      soc.peripheral? name = some { kind := if mode = .read then .rom else .ram } ∧
      soc.bus.Serves name { origin := some origin, size, mode, cached := true, kind := .bus }
  | .rom name origin size => soc.peripheral? name = some { kind := .rom } ∧
      soc.bus.Serves name
        { origin := some origin, size, mode := .read, cached := true, kind := .bus }
  | .csrBridge origin => soc.peripheral? "csr_bridge" = some { kind := .csrBridge } ∧
      (∃ window, soc.bus.Serves "csr" window ∧ window.origin = some origin ∧
        window.size.toNat = 2 ^ (soc.csr.addressWidth.toNat + 2) ∧ window.cached = false ∧
        window.kind = .bus) ∧
      (soc.csr.masters.lookup "bridge").isSome
  | .timer name => soc.peripheral? name = some { kind := .timer, eventSource := true } ∧
      soc.Locates .csr name ∧ soc.Locates .irq name
  | .identifier name _ _ =>
      (∃ kind, soc.peripheral? name = some { kind, memories := ["mem"] }) ∧
      soc.Locates .csr s!"{name}_mem"
  | .uart kind baudrate =>
      soc.peripheral? "uart" = some { kind := .uart kind baudrate, eventSource := true } ∧
      soc.Locates .csr "uart" ∧ soc.Locates .csr "uart_phy" ∧ soc.Locates .irq "uart"
  | .sdram name geometry origin cap _ => soc.peripheral? name = some { kind := .sdram } ∧
      soc.Locates .csr name ∧ ∃ size : UInt64,
        soc.bus.Serves "main_ram"
          { origin := some origin, size, mode := .readWrite, cached := true, kind := .bus } ∧
        size.toNat = match cap with
          | some cap => min geometry.bytes cap.toNat
          | none => geometry.bytes
  | .peripheral name eventSource csr irq constants =>
      soc.peripheral? name = some {
        kind := .other
        eventSource
        constants := constants.entries.map fun constant => (constant.1, .int constant.2) } ∧
      (csr = true → soc.Locates .csr name) ∧ (irq = true → soc.Locates .irq name)
  | .region name given => ∃ stored, given.IsStored stored ∧
      (soc.bus.table given.kind).get? name = some stored
  | .master wanted interface => ∃ name, (∀ given, wanted = some given → name = given) ∧
      soc.bus.HasMaster name interface
  | .slave wanted interface window => ∃ name attachment region,
      (∀ given, wanted = some given → name = given) ∧
      soc.bus.slave? name = some attachment ∧ attachment.interface = interface ∧
      soc.bus.regions.get? name = some region ∧
      ∀ given, window = some given → given.IsStored region
  | .location space name wanted => ∃ slot, (soc.locations space).get? name = some slot ∧
      ∀ given, wanted = some given → slot = given
  | .constant name value => soc.constants.get? name = some (.int value)

section Extension
variable {soc after : Soc} {name : String} {component : Peripheral}

theorem Extends.registered (grown : soc.Extends after) {others : NameMap Peripheral}
    (entered : soc.peripherals = others.insert name component) :
    after.peripheral? name = some component := by
  apply grown.peripherals
  rw [entered, NameMap.get?_insert, if_pos rfl]

theorem Extends.locations (grown : soc.Extends after) (space : Space) :
    (soc.locations space).Extends (after.locations space) := by
  cases space with
  | csr => exact grown.csrLocations
  | irq => exact grown.irqLocations

theorem Extends.locates (grown : soc.Extends after) (space : Space)
    (known : soc.Locates space name) : after.Locates space name := by
  obtain ⟨slot, known⟩ := Option.isSome_iff_exists.mp known
  exact Option.isSome_iff_exists.mpr ⟨slot, (grown.locations space).slots _ _ known⟩

end Extension

variable {soc : Soc}

theorem provides_cpu {core : Cpu} (declared : Declared (.cpu core) soc) :
    soc.Provides (.cpu core) := by
  obtain ⟨_, _, ⟨-, bus, locations, lines, constants, real, windows, rfl⟩, grown⟩ := declared
  refine ⟨grown.registered rfl, grown.cpu core rfl, fun some => ?_, ?_⟩
  · obtain ⟨masters, known, recorded⟩ := real (beq_eq_false_iff_ne.mpr some)
    refine ⟨?_, grown.locates .csr known, ?_⟩
    · intro index interface found
      have there := masters (interface, index) (List.mk_mem_zipIdx_iff_getElem?.mpr found)
      exact grown.bus.hasMaster there
    · intro name line bound
      exact grown.irqLocations.slots _ _ (recorded _ (NameMap.mem_entries_iff.mpr bound))
  · intro index origin size found
    have there := windows ((origin, size), index) (List.mk_mem_zipIdx_iff_getElem?.mpr found)
    exact Names.lookup_of_prefix grown.bus.windows there

/-- The window was sized for the registers as they were at the time. By the invariant
it has the size for the registers as they are. -/
theorem provides_csrBridge (sound : soc.Sound) {origin : UInt64}
    (declared : Declared (.csrBridge origin) soc) : soc.Provides (.csrBridge origin) := by
  obtain ⟨before, _, ⟨-, bus, constants, serves, free, rfl⟩, grown⟩ := declared
  have stays : soc.bus.Serves csrRegionName (csrWindow before.csr origin) := grown.bus.serves serves
  have attached : soc.csr.masters.lookup "bridge" = some ⟨before.csr.dataWidth⟩ :=
    Names.lookup_of_prefix grown.csrMasters
      (Names.lookup_concat_of_isNone (Option.isNone_iff_eq_none.mpr free))
  have some : soc.csr.masters ≠ [] := by
    intro none
    rw [none] at attached
    contradiction
  obtain ⟨-, other, found⟩ := sound.bridged some
  have same := Option.some.inj (stays.2.symm.trans found)
  refine ⟨grown.registered rfl, ⟨_, stays, rfl, ?_, rfl, rfl⟩, Option.isSome_of_eq_some attached⟩
  rw [same]
  exact csrWindow_size sound.csr other

theorem provides_slave {wanted : Option String} {interface : Bus.Interface}
    {window : Option Region} (declared : Declared (.slave wanted interface window) soc) :
    soc.Provides (.slave wanted interface window) := by
  obtain ⟨before, _, ⟨name, chosen, middle, attachment, prepared, same, rfl⟩, grown⟩ := declared
  obtain ⟨-, named, fresh, decoded, known⟩ := Bus.chooseSlave_ok_iff.mp chosen
  have region : ∃ region, middle.regions.get? name = some region ∧
      ∀ given, window = some given → given.IsStored region := by
    cases window with
    | none =>
      obtain rfl := prepared
      obtain ⟨region, found⟩ := Option.isSome_iff_exists.mp (known rfl)
      exact ⟨region, found, fun _ given => nomatch given⟩
    | some given =>
      obtain ⟨stored, settled, rfl⟩ := prepared
      obtain ⟨checked, kind⟩ := Bus.settled_of_settle settled
      refine ⟨stored, checked.get?_store (kind.trans (decoded given rfl)), ?_⟩
      rintro _ ⟨⟩
      exact Bus.isStored_of_settle settled
  obtain ⟨region, found, stored⟩ := region
  refine ⟨name, attachment, region, ?_, ?_, same, ?_, stored⟩
  · rintro given rfl
    exact named
  · exact Names.lookup_of_prefix grown.bus.slaves (Names.lookup_concat_of_isNone fresh)
  · exact Names.lookup_of_prefix grown.bus.regions found

theorem provides_location {space : Space} {name : String} {wanted : Option UInt32} {reuse : Bool}
    (declared : Declared (.location space name wanted reuse) soc) :
    ∃ slot, (soc.locations space).get? name = some slot ∧
      (reuse = false → ∀ given, wanted = some given → slot = given) := by
  obtain ⟨before, _, ⟨slot, table, assigned, rfl⟩, grown⟩ := declared
  refine ⟨slot, (grown.locations space).slots _ _ ?_, assigned.given⟩
  rw [locations_withLocations, if_pos rfl]
  exact assigned.known

theorem locates_of_declared {space : Space} {name : String} {wanted : Option UInt32} {reuse : Bool}
    (declared : Declared (.location space name wanted reuse) soc) : soc.Locates space name := by
  obtain ⟨slot, known, -⟩ := provides_location declared
  exact Option.isSome_of_eq_some known

/-- A component has what belongs to it where all its declarations had their effects. -/
theorem provides_of_declared (sound : soc.Sound) {component : Component}
    (declared : ∀ declaration ∈ component.declarations, Declared declaration soc) :
    soc.Provides component := by
  have single {declaration : Declaration} (only : component.declarations = [declaration]) :
      Declared declaration soc :=
    declared declaration (only ▸ List.mem_cons_self)
  cases component with
  | cpu core => exact provides_cpu (single rfl)
  | csrBridge origin => exact provides_csrBridge sound (single rfl)
  | slave wanted interface window => exact provides_slave (single rfl)
  | controller name =>
    obtain ⟨_, _, ⟨-, locations, known, rfl⟩, grown⟩ := single rfl
    exact ⟨grown.registered rfl, grown.locates .csr known⟩
  | ram name origin size mode =>
    obtain ⟨_, _, ⟨-, bus, serves, rfl⟩, grown⟩ := single rfl
    exact ⟨grown.registered rfl, grown.bus.serves serves⟩
  | rom name origin size =>
    obtain ⟨_, _, ⟨-, bus, serves, rfl⟩, grown⟩ := single rfl
    exact ⟨grown.registered rfl, grown.bus.serves serves⟩
  | timer name =>
    obtain ⟨_, _, ⟨-, locations, lines, known, driven, rfl⟩, grown⟩ := single rfl
    exact ⟨grown.registered rfl, grown.locates .csr known,
      grown.locates .irq driven⟩
  | identifier name text buildTime =>
    obtain ⟨_, _, ⟨-, locations, known, rfl⟩, grown⟩ := single rfl
    exact ⟨⟨_, grown.registered rfl⟩, grown.locates .csr known⟩
  | uart kind baudrate =>
    obtain ⟨_, _, ⟨-, bus, parts, locations, lines, phy, known, driven, rfl⟩, grown⟩ := single rfl
    exact ⟨grown.registered rfl, grown.locates .csr known,
      grown.locates .csr phy, grown.locates .irq driven⟩
  | sdram name geometry origin cap cacheSize =>
    obtain ⟨_, _, ⟨-, capacity, bus, locations, constants, sized, known, serves, rfl⟩, grown⟩ :=
      single rfl
    exact ⟨grown.registered rfl, grown.locates .csr known, _, grown.bus.serves serves,
      SdramGeometry.toNat_min_capacity sized cap⟩
  | peripheral name eventSource csr irq constants =>
    simp only [Component.declarations, List.mem_append, or_imp, forall_and, List.mem_singleton,
      forall_eq] at declared
    obtain ⟨⟨⟨_, _, ⟨-, rfl⟩, grown⟩, registers⟩, lines⟩ := declared
    refine ⟨grown.registered rfl, ?_, ?_⟩
    · rintro rfl
      exact locates_of_declared (registers _ List.mem_cons_self)
    · rintro rfl
      exact locates_of_declared (lines _ List.mem_cons_self)
  | region name given =>
    obtain ⟨before, _, ⟨stored, settled, rfl⟩, grown⟩ := single rfl
    obtain ⟨checked, kind⟩ := Bus.settled_of_settle settled
    refine ⟨stored, Bus.isStored_of_settle settled, ?_⟩
    exact grown.remembers.region _ _ _ (kind ▸ checked.get?_table_store)
  | master wanted interface =>
    obtain ⟨before, _, ⟨name, chosen, attachment, same, rfl⟩, grown⟩ := single rfl
    obtain ⟨named, fresh⟩ := Bus.chooseMaster_ok_iff.mp chosen
    refine ⟨name, ?_, grown.bus.hasMaster ⟨attachment, ?_, same⟩⟩
    · rintro given rfl
      exact named
    · exact Names.lookup_concat_of_isNone fresh
  | location space name wanted =>
    obtain ⟨slot, known, given⟩ := provides_location (single rfl)
    exact ⟨slot, known, given rfl⟩
  | constant name value =>
    obtain ⟨_, _, ⟨-, rfl⟩, grown⟩ := single rfl
    apply grown.constants
    rw [NameMap.get?_insert, if_pos rfl]

end Soc

namespace Description
variable {description : Description} {soc : Soc}

/-- A composition that succeeds gives every component of the description what belongs
to it. -/
theorem provides_of_compose (composed : description.compose.result = .ok soc) :
    ∀ component ∈ description.components, soc.Provides component := by
  intro component member
  apply Soc.provides_of_declared (reachable_of_compose composed).sound
  intro declaration declares
  apply declared_of_compose composed
  exact List.mem_flatMap.mpr ⟨component, member, declares⟩

/-- A timer comes to the line that was set aside for it, behind a processor that takes
the first line and declares the window of the registers. Of the 32 MiB of the memory half
is mapped, as that is its cap. -/
theorem provides_reserved_timer : ∃ (description : Description) (soc : Soc),
    description.compose.result = .ok soc ∧ description.config.irq.reserved.get? "tick" = some 5 ∧
      soc.irq.locations.get? "tick" = some 5 ∧
      .sdram "sdram" ⟨2, 13, 9, 16, 128⟩ 0x40000000 (some 0x1000000) 8192 ∈
        description.components ∧
      soc.bus.regions.get? "main_ram" = some { origin := some 0x40000000, size := 0x1000000 } ∧
      ∀ component ∈ description.components, soc.Provides component := by
  let core : Cpu := {
    name := "core"
    buses := [⟨32⟩, ⟨64⟩]
    interrupts := .ofList [("uart", 0)]
    windows := [(0xf0000000, 0x10000000)]
    interruptLines := true }
  let description : Description := {
    config := { irq := { reserved := .ofList [("tick", 5)] } }
    components := [.controller "ctrl", .cpu core, .csrBridge 0xf0000000, .timer "tick",
      .rom "rom" 0 0x8000, .uart .bridge 115200, .identifier "ident" "demo" none,
      .slave none ⟨32⟩ (some (Region.unplaced 0x1000)),
      .sdram "sdram" ⟨2, 13, 9, 16, 128⟩ 0x40000000 (some 0x1000000) 8192] }
  have evaluated : (do
      let soc ← description.compose
      pure (soc.irq.locations.get? "tick", soc.bus.regions.get? "main_ram") :
      Verdict (Option UInt32 × Option Region)).result =
        .ok (some 5, some { origin := some 0x40000000, size := 0x1000000 }) := by
    decide +kernel
  simp only [Verdict.bind_ok_iff, Verdict.result_pure, Except.ok.injEq, Prod.mk.injEq] at evaluated
  obtain ⟨soc, composed, line, memory⟩ := evaluated
  exact ⟨description, soc, composed, by decide +kernel, line, by decide, memory,
    provides_of_compose composed⟩

end Description

end SystemOnChip
