import Mathlib.Data.List.Nodup
import SystemOnChip.Proofs.Soc.Locations

/-! The interrupt wires and the constants of a finished system. Wires go to the lines
that the processor leaves to others. The constants are those declared, those that
components publish with their registers, and one for each wire. -/
namespace SystemOnChip

namespace NameMap
variable {α β : Type}

theorem filterMap_get?_perm (map : NameMap α) (other : NameMap β) :
    (map.entries.filterMap fun entry => (other.get? entry.1).map (entry.1, ·)).Perm
      (other.entries.filter fun entry => map.contains entry.1) := by
  have names : (map.entries.filterMap fun entry => (other.get? entry.1).map (entry.1, ·)).Nodup := by
    refine (map.sorted.filterMap (S := fun a b => a.1 ≠ b.1) _ ?_).imp ?_
    · intro a b below _ foundA _ foundB same
      obtain ⟨_, -, rfl⟩ := Option.map_eq_some_iff.mp foundA
      obtain ⟨_, -, rfl⟩ := Option.map_eq_some_iff.mp foundB
      exact String.lt_irrefl _ (same ▸ below)
    · rintro a _ different rfl
      exact different rfl
  have entries : other.entries.Nodup := List.Nodup.of_map _ other.names_nodup
  rw [List.perm_ext_iff_of_nodup names (entries.filter _)]
  rintro ⟨name, value⟩
  simp only [List.mem_filterMap, List.mem_filter, Option.map_eq_some_iff, Prod.mk.injEq,
    mem_entries_iff, contains_iff, List.mem_map]
  constructor
  · rintro ⟨entry, listed, _, found, rfl, rfl⟩
    exact ⟨found, entry, listed, rfl⟩
  · rintro ⟨found, entry, listed, rfl⟩
    exact ⟨entry, listed, value, found, rfl, rfl⟩

end NameMap

namespace Soc
variable {soc : Soc} {name : String} {line : UInt32}

/-- What components publish with their registers: the constants of every component
whose name is a location of the registers. -/
def publications (soc : Soc) : List (String × Constant) :=
  (soc.peripherals.entries.filter fun entry => soc.csr.locations.slots.contains entry.1).flatMap
    fun (name, peripheral) => peripheral.constants.map fun (constant, value) =>
      (Text.upper s!"{name}_{constant}", value)

theorem csrConstants_perm :
    (soc.csrConstants.map fun constant => (Text.upper constant.1, constant.2)).Perm
      soc.publications := by
  have each : soc.csrConstants.map (fun constant => (Text.upper constant.1, constant.2)) =
      soc.csr.locations.byLocation.flatMap fun location =>
        ((soc.peripherals.get? location.1).map (location.1, ·)).toList.flatMap
          fun (name, peripheral) => peripheral.constants.map fun (constant, value) =>
            (Text.upper s!"{name}_{constant}", value) := by
    rw [csrConstants, List.map_flatMap]
    refine List.flatMap_congr fun location _ => ?_
    simp only [peripheral?]
    cases soc.peripherals.get? location.1 with
    | none => rfl
    | some peripheral => simp [Function.comp_def]
  rw [each, ← List.flatMap_assoc, ← List.filterMap_eq_flatMap_toList]
  have ordered := List.mergeSort_perm soc.csr.locations.slots.entries fun a b => a.2 ≤ b.2
  have joined := (ordered.filterMap _).trans (NameMap.filterMap_get?_perm _ soc.peripherals)
  exact joined.flatMap_right _

theorem mem_externalLines_iff : (name, line) ∈ soc.externalLines ↔
    ∃ core, soc.cpu = some core ∧ core.interruptLines = true ∧
      soc.irq.locations.get? name = some line ∧ core.interrupts.get? name = none := by
  rw [externalLines]
  cases soc.cpu with
  | none => simp
  | some core =>
    dsimp only
    split
    next lines =>
      simp [List.mem_filter, NameMap.mem_entries_iff, NameMap.contains_eq_false_iff, lines,
        LocationTable.get?]
    next silent => simp [silent]

theorem Sound.externalLines_distinct (sound : soc.Sound) :
    soc.externalLines.Pairwise fun a b => a.2 ≠ b.2 := by
  rw [externalLines]
  split
  next => exact .nil
  next =>
    split
    next => exact sound.irq.numbers_distinct.filter _
    next => exact .nil

theorem mem_irqWires_iff {lines : List (String × UInt32)} {wire : IrqWire} :
    wire ∈ irqWires lines ↔ (wire.source, wire.line) ∈ lines := by
  rw [irqWires, List.mem_mergeSort, List.mem_map]
  constructor
  · rintro ⟨entry, listed, rfl⟩
    exact listed
  · intro listed
    exact ⟨_, listed, rfl⟩

theorem irqWires_increasing {lines : List (String × UInt32)}
    (distinct : lines.Pairwise fun a b => a.2 ≠ b.2) :
    (irqWires lines).Pairwise fun a b => a.line < b.line :=
  Sorting.pairwise_lt_mergeSort (List.pairwise_map.mpr distinct)

end Soc

namespace AddressMap
variable {soc : Soc} {map : AddressMap} {config : Soc.Config} {declarations : List Soc.Declaration}

/-- There is one wire for each line of a processor with interrupt lines that it does
not use itself, by number; each wire comes from a component with an event source.
Without such a processor there is none. -/
structure Wired (soc : Soc) (count : UInt32) (map : AddressMap) : Prop where
  increasing : map.irqWires.Pairwise fun a b => a.line < b.line
  exactly : ∀ wire, wire ∈ map.irqWires ↔ ∃ core, soc.cpu = some core ∧
    core.interruptLines = true ∧ soc.irq.locations.get? wire.source = some wire.line ∧
    core.interrupts.get? wire.source = none
  silent : (∀ core, soc.cpu = some core → core.interruptLines = false) → map.irqWires = []
  bounded : ∀ wire ∈ map.irqWires, wire.line < count
  driven : ∀ wire ∈ map.irqWires, ∃ peripheral,
    soc.peripheral? wire.source = some peripheral ∧ peripheral.eventSource = true

/-- The constants are the declared ones, those published with the registers, and the
number of each wire; as they are stored by name, no two of them share theirs. -/
def Published (soc : Soc) (map : AddressMap) : Prop :=
  map.constants.entries.entries.Perm (soc.constants.entries.entries ++ soc.publications ++
    map.irqWires.map fun wire =>
      (Text.upper s!"{wire.source}_INTERRUPT", .int wire.line.toUInt64))

theorem irqWires_of_finalize (finished : soc.finalize.result = .ok map) :
    map.irqWires = Soc.irqWires soc.externalLines := by
  obtain ⟨_, _, _, _, -, -, -, -, -, rfl⟩ := Soc.finalize_ok_iff.mp finished
  rfl

theorem wired_of_finalize (ran : (Soc.run config declarations).result = .ok soc)
    (finished : soc.finalize.result = .ok map) : Wired soc config.irq.count map := by
  have sound := (Soc.reachable_of_run ran).sound
  have wires := irqWires_of_finalize finished
  have listed (wire : IrqWire) : wire ∈ map.irqWires ↔
      (wire.source, wire.line) ∈ soc.externalLines := by
    rw [wires]
    exact Soc.mem_irqWires_iff
  have exactly (wire : IrqWire) := (listed wire).trans Soc.mem_externalLines_iff
  refine ⟨?_, exactly, ?_, ?_, ?_⟩
  · rw [wires]
    exact Soc.irqWires_increasing sound.externalLines_distinct
  · intro silent
    rw [List.eq_nil_iff_forall_not_mem]
    intro wire member
    obtain ⟨core, present, lines, -⟩ := (exactly wire).mp member
    rw [silent core present] at lines
    contradiction
  · intro wire member
    obtain ⟨_, -, -, held, -⟩ := (exactly wire).mp member
    rw [← (Soc.irqLocations_of_run ran).1]
    exact sound.irq.bounded _ _ held
  · intro wire member
    exact Soc.sources_of_finalize finished _ ((listed wire).mp member)

theorem published_of_finalize (finished : soc.finalize.result = .ok map) : Published soc map := by
  have gained := Soc.constants_of_finalize finished
  rw [ConstantTable.Gains, ← List.append_assoc] at gained
  have lines : (map.irqWires.map fun wire => (Text.upper s!"{wire.source}_INTERRUPT",
      Constant.int wire.line.toUInt64)).Perm (soc.externalLines.map fun line =>
        (Text.upper s!"{line.1}_INTERRUPT", Constant.int line.2.toUInt64)) := by
    rw [irqWires_of_finalize finished, Soc.irqWires]
    refine ((List.mergeSort_perm _ _).map _).trans ?_
    rw [List.map_map]
    rfl
  exact gained.trans ((Soc.csrConstants_perm.append_left _).append lines.symm)

/-- A finished system has exactly the wires that its lines ask for, and exactly the
constants that are declared and published. -/
theorem wired_and_published (ran : (Soc.run config declarations).result = .ok soc)
    (finished : soc.finalize.result = .ok map) :
    Wired soc config.irq.count map ∧ Published soc map :=
  ⟨wired_of_finalize ran finished, published_of_finalize finished⟩

/-- A component with two constants is wired beside a line that the processor keeps. -/
theorem wired_beside_kept_line : ∃ (soc : Soc) (map : AddressMap),
    soc.finalize.result = .ok map ∧
    map.irqWires = [⟨3, "dev"⟩] ∧
    map.constants.entries.get? "DEV_MODE" = some .flag ∧
    map.constants.get? "dev_interrupt" = some (.int 3) ∧
    Wired soc 8 map ∧ Published soc map := by
  let dev : Peripheral := {
    kind := .other, eventSource := true, constants := [("base", .int 7), ("mode", .flag)] }
  let core : Cpu := { interrupts := .ofList [("spare", 0)], interruptLines := true }
  let config : Soc.Config := { Soc.windowed with irq := { count := 8 } }
  have evaluated : (do
      let soc ← Soc.run config [.csrBridge 0xf0000000, .peripheral "dev" dev,
        .location .csr "dev" none false, .location .irq "spare" none false,
        .location .irq "dev" (some 3) false, .cpu core]
      let map ← soc.finalize
      pure (map.irqWires, map.constants.entries.get? "DEV_MODE",
        map.constants.get? "dev_interrupt") :
      Verdict (List IrqWire × Option Constant × Option Constant)).result =
        .ok ([⟨3, "dev"⟩], some .flag, some (.int 3)) := by
    decide +kernel
  simp only [Verdict.bind_ok_iff, Verdict.result_pure, Except.ok.injEq, Prod.mk.injEq] at evaluated
  obtain ⟨soc, ran, map, finished, wires, mode, interrupt⟩ := evaluated
  obtain ⟨wired, published⟩ := wired_and_published ran finished
  exact ⟨soc, map, finished, wires, mode, interrupt, wired, published⟩

end AddressMap

end SystemOnChip
