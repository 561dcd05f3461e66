import SystemOnChip.Proofs.AddressMap.Requirements
import SystemOnChip.Proofs.Description.Composition

/-! Which controller resets the processor, and which one is told of bus errors. Both
follow from the places of the controllers and of the processor among the components:
no other component has a part in it. -/
namespace SystemOnChip

/-- Whether an interconnect of the bus detects errors: it has masters, slaves and a
timeout. -/
def Bus.reportsErrors (bus : Bus) : Bool :=
  !bus.masters.isEmpty && !bus.slaves.isEmpty && bus.timeout.isSome

namespace Soc
variable {soc after : Soc} {declaration : Declaration} {done : List Declaration}

namespace Declaration

def controllerName? : Declaration → Option String
  | controller name => some name
  | _ => none

/-- The controller that is declared last. -/
def lastController (declarations : List Declaration) : Option String :=
  (declarations.filterMap controllerName?).getLast?

theorem lastController_concat :
    lastController (done ++ [declaration]) = declaration.controllerName?.or (lastController done) := by
  rw [lastController, List.filterMap_append, List.getLast?_append, lastController]
  cases named : declaration.controllerName? <;> simp [named]

/-- Only a processor changes the reset source. -/
theorem Effect.control (effect : declaration.Effect soc after)
    (other : ∀ core, declaration ≠ .cpu core) :
    after.controller = declaration.controllerName?.or soc.controller ∧
      after.resetSource = soc.resetSource := by
  cases declaration with
  | cpu core => exact absurd rfl (other core)
  | region =>
    obtain ⟨_, -, rfl⟩ := effect
    exact ⟨rfl, rfl⟩
  | master =>
    obtain ⟨_, -, _, -, rfl⟩ := effect
    exact ⟨rfl, rfl⟩
  | slave =>
    obtain ⟨_, -, _, _, -, -, rfl⟩ := effect
    exact ⟨rfl, rfl⟩
  | location space =>
    obtain ⟨_, _, -, rfl⟩ := effect
    cases space <;> exact ⟨rfl, rfl⟩
  | constant | setting | peripheral =>
    obtain ⟨-, rfl⟩ := effect
    exact ⟨rfl, rfl⟩
  | controller | ram | rom | identifier =>
    obtain ⟨-, _, -, rfl⟩ := effect
    exact ⟨rfl, rfl⟩
  | csrBridge | timer =>
    obtain ⟨-, _, _, -, -, rfl⟩ := effect
    exact ⟨rfl, rfl⟩
  | uart | sdram =>
    obtain ⟨-, _, _, _, _, -, -, -, rfl⟩ := effect
    exact ⟨rfl, rfl⟩

end Declaration

open Declaration (lastController lastController_concat)

theorem split_of_concat {α : Type} {items before rest : List α} {last item : α}
    (split : items ++ [last] = before ++ item :: rest) :
    (rest = [] ∧ before = items ∧ item = last) ∨
      ∃ middle, rest = middle ++ [last] ∧ items = before ++ item :: middle := by
  rcases List.eq_nil_or_concat' rest with rfl | ⟨middle, other, rfl⟩
  · obtain ⟨rfl, same⟩ := List.append_inj' split rfl
    exact .inl ⟨rfl, rfl, (List.singleton_inj.mp same).symm⟩
  · rw [← List.cons_append, ← List.append_assoc] at split
    obtain ⟨earlier, same⟩ := List.append_inj' split rfl
    rw [List.singleton_inj.mp same]
    exact .inr ⟨middle, rfl, earlier⟩

/-- How the controller and the reset source of a system follow from the declarations
made so far. With a processor among them its name is taken, so that none comes after. -/
structure Controlled (done : List Declaration) (soc : Soc) : Prop where
  controller : soc.controller = lastController done
  absent : (∀ core, .cpu core ∉ done) → soc.resetSource = none
  present : ∀ before core rest, done = before ++ .cpu core :: rest →
    soc.peripherals.contains "cpu" = true ∧ (∀ other, .cpu other ∉ before ++ rest) ∧
      soc.resetSource = if core.isNone then none else lastController before

namespace Controlled

theorem step_other (holds : Controlled done soc) (effect : declaration.Effect soc after)
    (other : ∀ core, declaration ≠ .cpu core) (grown : soc.Extends after) :
    Controlled (done ++ [declaration]) after := by
  obtain ⟨controller, resetSource⟩ := effect.control other
  constructor
  case controller => rw [controller, lastController_concat, holds.controller]
  case absent =>
    intro none
    rw [resetSource]
    exact holds.absent fun core member => none core (List.mem_append_left _ member)
  case present =>
    intro before core rest split
    -- the processor is not the declaration made last, so that it was there before
    obtain ⟨-, -, same⟩ | ⟨middle, rfl, earlier⟩ := split_of_concat split
    · exact absurd same.symm (other core)
    · obtain ⟨taken, single, source⟩ := holds.present before core middle earlier
      refine ⟨?_, fun second member => ?_, resetSource.trans source⟩
      · obtain ⟨component, entered⟩ := Option.isSome_iff_exists.mp taken
        exact Option.isSome_of_eq_some (grown.peripherals _ _ entered)
      · rw [← List.append_assoc, List.mem_append, List.mem_singleton] at member
        rcases member with member | rfl
        · exact single second member
        · exact other second rfl

theorem step_cpu {core : Cpu} (holds : Controlled done soc)
    (effect : (Declaration.cpu core).Effect soc after) :
    Controlled (done ++ [.cpu core]) after := by
  obtain ⟨fresh, bus, locations, lines, constants, -, -, rfl⟩ := effect
  -- a processor before this one would have taken the name
  have none (other : Cpu) : .cpu other ∉ done := by
    intro member
    obtain ⟨before, rest, split⟩ := List.append_of_mem member
    rw [(holds.present before other rest split).1] at fresh
    contradiction
  constructor
  case controller =>
    rw [lastController_concat, ← holds.controller]
    rfl
  case absent =>
    intro absent
    exact absurd (List.mem_append_right _ List.mem_cons_self) (absent core)
  case present =>
    intro before second rest split
    obtain ⟨rfl, rfl, same⟩ | ⟨middle, rfl, rfl⟩ := split_of_concat split
    · cases same
      refine ⟨?_, ?_, ?_⟩
      · rw [NameMap.contains_insert]
        rfl
      · rwa [List.append_nil]
      · rw [holds.absent none, holds.controller]
        split <;> simp
    · exact absurd (List.mem_append_right _ List.mem_cons_self) (none second)

theorem of_compose {description : Description} (composed : description.compose.result = .ok soc) :
    Controlled description.declarations soc := by
  refine (Description.keeps_of_compose Controlled composed ?_ ?_).2
  · intro created accepted
    obtain ⟨-, -, -, controller, source⟩ := Soc.ofConfig_parts accepted
    refine ⟨controller, fun _ => source, fun before core rest split => ?_⟩
    exact absurd split.symm (List.append_ne_nil_of_right_ne_nil _ (List.cons_ne_nil _ _))
  · intro done declaration before reached holds effect
    cases declaration with
    | cpu core => exact holds.step_cpu effect
    | _ => exact holds.step_other effect (fun _ => Declaration.noConfusion) (reached.extends_leave _)

end Controlled

/-- The controller is told of the errors of a bus that has them. -/
theorem busErrorSink_of_finalize {map : AddressMap} (sound : soc.bus.Sound)
    (finished : soc.finalize.result = .ok map) :
    map.busErrorSink = if soc.bus.reportsErrors then soc.controller else none := by
  obtain ⟨interconnect, _, _, _, built, -, -, -, -, rfl⟩ := finalize_ok_iff.mp finished
  obtain ⟨slaves, -, answered⟩ := busInterconnect_ok sound
  cases Except.ok.inj (built.symm.trans answered)
  simp only [busErrorSink, Bus.reportsErrors, ← Bool.not_or]
  by_cases idle : (soc.bus.masters.isEmpty || soc.bus.slaves.isEmpty) = true
  · rw [if_pos idle, idle]
    rfl
  · rw [if_neg idle, Bool.eq_false_iff.mpr idle]
    rfl

end Soc

namespace Component
variable {component : Component} {components others : List Component} {core : Cpu}

def controllerName? : Component → Option String
  | controller name => some name
  | _ => none

def isControl : Component → Bool
  | controller _ | cpu _ => true
  | _ => false

/-- The last controller of a list of components. -/
def lastController (components : List Component) : Option String :=
  (components.filterMap controllerName?).getLast?

theorem controllerNames_declarations :
    component.declarations.filterMap Soc.Declaration.controllerName? =
      component.controllerName?.toList := by
  cases component with
  | peripheral name eventSource csr irq constants => cases csr <;> cases irq <;> rfl
  | _ => rfl

theorem cpu_mem_declarations_iff : .cpu core ∈ component.declarations ↔ component = .cpu core := by
  cases component with
  | peripheral name eventSource csr irq constants =>
    cases csr <;> cases irq <;> simp [declarations]
  | cpu other => simp [declarations, eq_comm]
  | _ => simp [declarations]

theorem lastController_declarations :
    Soc.Declaration.lastController (components.flatMap declarations) =
      lastController components := by
  rw [Soc.Declaration.lastController, lastController, List.filterMap_flatMap]
  simp only [controllerNames_declarations]
  rw [← List.filterMap_eq_flatMap_toList]

theorem lastController_filter :
    lastController (components.filter isControl) = lastController components := by
  rw [lastController, List.filterMap_filter, lastController]
  congr 1
  apply List.filterMap_congr
  intro component _
  cases component <;> rfl

theorem lastController_congr (same : components.filter isControl = others.filter isControl) :
    lastController components = lastController others := by
  rw [← lastController_filter, same, lastController_filter]

/-- Where a processor stands among the controllers it stands in the whole list. -/
theorem split_of_filter {front back : List Component}
    (filtered : components.filter isControl = front ++ .cpu core :: back) :
    ∃ before rest, components = before ++ .cpu core :: rest ∧ before.filter isControl = front := by
  obtain ⟨first, second, rfl, rfl, later⟩ := List.filter_eq_append_iff.mp filtered
  obtain ⟨idle, rest, rfl, none, -, -⟩ := List.filter_eq_cons_iff.mp later
  refine ⟨first ++ idle, rest, (List.append_assoc ..).symm, ?_⟩
  rw [List.filter_append, List.filter_eq_nil_iff.mpr none, List.append_nil]

end Component

namespace AddressMap
open Component (lastController lastController_congr)
variable {components others : List Component} {map other : AddressMap}

/-- The reset source and the error sink of a map follow from the order of a list of
components, of which one at most is a processor. -/
structure Controlled (components : List Component) (map : AddressMap) : Prop where
  single : ∀ before core rest, components = before ++ .cpu core :: rest →
    ∀ second, .cpu second ∉ before ++ rest
  reset : ∀ before core rest, components = before ++ .cpu core :: rest →
    map.resetSource = if core.name = "none" then none else lastController before
  unreset : (∀ core, .cpu core ∉ components) → map.resetSource = none
  sink : map.busErrorSink = if map.bus.reportsErrors then lastController components else none

/-- Components other than controllers and processors do not count, and neither does
their order. -/
theorem Controlled.determined (holds : Controlled components map) (second : Controlled others other)
    (same : components.filter (·.isControl) = others.filter (·.isControl)) :
    map.resetSource = other.resetSource ∧
      (map.bus.reportsErrors = other.bus.reportsErrors → map.busErrorSink = other.busErrorSink) := by
  constructor
  · by_cases some : ∃ core, .cpu core ∈ components
    · obtain ⟨core, member⟩ := some
      obtain ⟨before, rest, rfl⟩ := List.append_of_mem member
      have filtered := same.symm.trans (List.filter_append ..)
      rw [List.filter_cons_of_pos rfl] at filtered
      obtain ⟨front, back, rfl, agree⟩ := Component.split_of_filter filtered
      rw [holds.reset _ _ _ rfl, second.reset _ _ _ rfl, lastController_congr agree]
    · have none (core : Cpu) : .cpu core ∉ others := by
        intro member
        have kept : .cpu core ∈ others.filter (·.isControl) := List.mem_filter.mpr ⟨member, rfl⟩
        rw [← same] at kept
        exact some ⟨core, (List.mem_filter.mp kept).1⟩
      rw [holds.unreset fun core member => some ⟨core, member⟩, second.unreset none]
  · intro alike
    rw [holds.sink, second.sink, alike, lastController_congr same]

variable {description : Description} {soc : Soc}

theorem controlled_of_compose (composed : description.compose.result = .ok soc)
    (finished : soc.finalize.result = .ok map) : Controlled description.components map := by
  have holds := Soc.Controlled.of_compose composed
  have sound := (Description.reachable_of_compose composed).sound
  have sink := Soc.busErrorSink_of_finalize sound.bus finished
  obtain ⟨_, _, _, _, -, -, -, -, -, rfl⟩ := Soc.finalize_ok_iff.mp finished
  have present (before : List Component) (core : Cpu) (rest : List Component)
      (split : description.components = before ++ .cpu core :: rest) :=
    holds.present (before.flatMap Component.declarations) core
      (rest.flatMap Component.declarations)
      (by rw [Description.declarations, split, List.flatMap_append, List.flatMap_cons]; rfl)
  constructor
  case single =>
    intro before core rest split second member
    refine (present before core rest split).2.1 second ?_
    rw [← List.flatMap_append]
    exact List.mem_flatMap.mpr ⟨_, member, List.mem_cons_self⟩
  case reset =>
    intro before core rest split
    have source := (present before core rest split).2.2
    simpa only [Cpu.isNone, beq_iff_eq, Component.lastController_declarations] using source
  case unreset =>
    intro none
    apply holds.absent
    intro core member
    obtain ⟨component, listed, declares⟩ := List.mem_flatMap.mp member
    rw [Component.cpu_mem_declarations_iff.mp declares] at listed
    exact none core listed
  case sink =>
    rw [sink, holds.controller, Description.declarations, Component.lastController_declarations]

theorem controlled_of_finalize (composed : description.compose.result = .ok soc)
    (finished : soc.finalize.result = .ok map) :
    Controlled description.components map ∧
    ∀ (changed : Description) (after : Soc) (other : AddressMap),
      changed.compose.result = .ok after → after.finalize.result = .ok other →
      description.components.filter (·.isControl) = changed.components.filter (·.isControl) →
      map.resetSource = other.resetSource ∧
        (map.bus.reportsErrors = other.bus.reportsErrors →
          map.busErrorSink = other.busErrorSink) := by
  have holds := controlled_of_compose composed finished
  refine ⟨holds, fun changed after other recomposed refinished same => ?_⟩
  exact holds.determined (controlled_of_compose recomposed refinished) same

/-- With one controller on either side of the processor, the first one resets it and
the second one is told of bus errors. -/
theorem controlled_around_cpu : ∃ (description : Description) (soc : Soc) (map : AddressMap),
    description.compose.result = .ok soc ∧ soc.finalize.result = .ok map ∧
      map.resetSource = some "first" ∧ map.busErrorSink = some "second" ∧
      Controlled description.components map := by
  let core : Cpu := {
    name := "core"
    buses := [⟨32⟩]
    windows := [(0xf0000000, 0x10000000)] }
  let description : Description := {
    components := [.controller "first", .rom "rom" 0 0x8000, .cpu core, .timer "tick",
      .controller "second", .ram "sram" 0x10000000 0x1000 .readWrite, .csrBridge 0xf0000000] }
  have evaluated : (do
      let soc ← description.compose
      pure ((soc.pageNeeds ++ soc.bootNeeds).all (·.met) && soc.externalNames.isEmpty &&
        soc.peripherals.entries.all (·.2.constants.isEmpty), soc.bus.reportsErrors) :
      Verdict (Bool × Bool)).result = .ok (true, true) := by
    decide +kernel
  simp only [Verdict.bind_ok_iff, Verdict.result_pure, Except.ok.injEq, Prod.mk.injEq,
    Bool.and_eq_true, List.all_eq_true, List.isEmpty_iff] at evaluated
  obtain ⟨soc, composed, ⟨⟨met, external⟩, plain⟩, reports⟩ := evaluated
  -- no component publishes constants, so that only the regions are left to be required
  have promoted : soc.promotedKeys = [] := by
    refine List.flatMap_eq_nil_iff.mpr fun location _ => ?_
    cases found : soc.peripherals.get? location.1 with
    | none => rfl
    | some component =>
      rw [Option.elim_some, plain _ (NameMap.mem_entries_iff.mpr found)]
      rfl
  have sound := (Description.reachable_of_compose composed).sound.bus
  obtain ⟨map, finished⟩ := Soc.finalize_ok_of_met sound (by
    rwa [Soc.requirements, promoted, external, Requirement.claimKeys, Requirement.claimKeys,
      List.append_nil, List.append_nil])
  have holds := (controlled_of_finalize composed finished).1
  have same : map.bus = soc.bus := (Soc.shows_of_finalize finished).bus
  refine ⟨description, soc, map, composed, finished, ?_, ?_, holds⟩
  · exact holds.reset [.controller "first", .rom "rom" 0 0x8000] core _ rfl
  · rw [holds.sink, same, reports]
    rfl

end AddressMap

end SystemOnChip
