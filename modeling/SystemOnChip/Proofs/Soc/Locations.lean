import SystemOnChip.Proofs.Location.Vacancy
import SystemOnChip.Proofs.Soc.Extension

/-! Numbered locations over whole runs: of a table on its own, and of the registers
and interrupt lines of a system, which start with their reservations. -/
namespace SystemOnChip
open Relation (ReflTransGen)

namespace LocationTable

structure Request where
  name : String
  wanted : Option UInt32
  reuse : Bool

def leave (table : LocationTable) (request : Request) : LocationTable :=
  (assign request.name request.wanted request.reuse table).state

/-- Names and numbers below the capacity determine each other, in both records that
are kept of them. The least free number is allocated, and allocation fails only when
as many names are recorded as there are numbers. -/
structure Numbered (table : LocationTable) : Prop where
  injective : ∀ a b slot, table.get? a = some slot → table.get? b = some slot → a = b
  bounded : ∀ name slot, table.get? name = some slot → slot < table.capacity
  taken : ∀ slot, slot ∈ table.taken ↔ ∃ name, table.get? name = some slot
  owner : ∀ name slot, table.owner? slot = some name ↔ table.get? name = some slot
  listed : table.byLocation.Perm table.slots.entries
  increasing : table.byLocation.Pairwise (·.2 < ·.2)
  least : ∀ name slot, (table.allocate name).result = .ok slot ↔
    slot < table.capacity ∧ (∀ other, table.get? other ≠ some slot) ∧
      ∀ lower < slot, ∃ other, table.get? other = some lower
  exhausted : ∀ name fault, (table.allocate name).result = .error fault ↔
    fault = .capacityExhausted table.space table.capacity ∧ table.size = table.capacity.toNat
  automatic : ∀ name reuse, table.get? name = none →
    (assign name none reuse table).result = (table.allocate name).result

variable {table : LocationTable}

theorem Sound.numbered (sound : table.Sound) : table.Numbered where
  injective := sound.injective
  bounded := sound.bounded
  taken := sound.taken
  owner _ _ := sound.owner?_eq_some_iff
  listed := List.mergeSort_perm _ _
  increasing := sound.byLocation_increasing
  least _ _ := sound.allocate_ok_iff
  exhausted _ _ := sound.allocate_error_iff
  automatic _ _ := result_assign_of_unknown

theorem Sound.requests (sound : table.Sound) (requests : List Request) :
    (requests.foldl leave table).Sound ∧ table.Extends (requests.foldl leave table) := by
  have path : ReflTransGen Step table (requests.foldl leave table) :=
    Call.path_of_foldl (fun _ _ => assign_runs.path) requests
  exact ⟨sound.steps path, extends_of_steps path⟩

end LocationTable

namespace Soc
variable {soc : Soc} {config : Config} {declarations : List Declaration}

theorem created_of_run (ran : (run config declarations).result = .ok soc) :
    ∃ initial, (ofConfig config).result = .ok initial ∧ initial.Extends soc := by
  simp only [run, Verdict.bind_ok_iff, Verdict.result_pure, Except.ok.injEq] at ran
  obtain ⟨initial, accepted, rfl⟩ := ran
  exact ⟨initial, accepted, (Reachable.created accepted).extends_foldl declarations⟩

theorem csrLocations_of_run (ran : (run config declarations).result = .ok soc) :
    soc.csr.locations.capacity = Csr.capacityOf config.csr.addressWidth config.csr.paging ∧
      ∀ name slot, config.csr.reserved.get? name = some slot →
        soc.csr.locations.get? name = some slot := by
  obtain ⟨initial, accepted, grown⟩ := created_of_run ran
  obtain ⟨capacity, reserved⟩ := Csr.locations_of_ofConfig (ofConfig_parts accepted).1
  refine ⟨grown.csrLocations.capacity.trans capacity, fun name slot wanted => ?_⟩
  exact grown.csrLocations.slots _ _ (reserved name slot wanted)

theorem irqLocations_of_run (ran : (run config declarations).result = .ok soc) :
    soc.irq.locations.capacity = config.irq.count ∧
      ∀ name line, config.irq.reserved.get? name = some line →
        soc.irq.locations.get? name = some line := by
  obtain ⟨initial, accepted, grown⟩ := created_of_run ran
  obtain ⟨capacity, reserved⟩ := Irq.locations_of_ofConfig (ofConfig_parts accepted).2.1
  refine ⟨grown.irqLocations.capacity.trans capacity, fun name line wanted => ?_⟩
  exact grown.irqLocations.slots _ _ (reserved name line wanted)

end Soc

namespace LocationTable

/-- A table is numbered after any requests, and so are the registers and the lines
of a system after any declarations; their reservations are still recorded then. -/
theorem numbered_throughout :
    (∀ (space : String) (capacity : UInt32) (requests : List Request),
      (requests.foldl leave { space, capacity }).capacity = capacity ∧
      (requests.foldl leave { space, capacity }).Numbered) ∧
    ∀ (config : Soc.Config) (declarations : List Soc.Declaration) (soc : Soc),
      (Soc.run config declarations).result = .ok soc →
      ((soc.csr.locations.capacity = Csr.capacityOf config.csr.addressWidth config.csr.paging ∧
          ∀ name slot, config.csr.reserved.get? name = some slot →
            soc.csr.locations.get? name = some slot) ∧ soc.csr.locations.Numbered) ∧
      (soc.irq.locations.capacity = config.irq.count ∧
          ∀ name line, config.irq.reserved.get? name = some line →
            soc.irq.locations.get? name = some line) ∧ soc.irq.locations.Numbered := by
  constructor
  · intro space capacity requests
    have empty : Sound { space, capacity } := .empty
    obtain ⟨sound, grown⟩ := empty.requests requests
    exact ⟨grown.capacity, sound.numbered⟩
  · intro config declarations soc ran
    have sound := (Soc.reachable_of_run ran).sound
    exact ⟨⟨Soc.csrLocations_of_run ran, sound.csr.locations.numbered⟩,
      Soc.irqLocations_of_run ran, sound.irq.numbered⟩

/-- Of two lines one is reserved and one is allocated, after which there is none. -/
theorem numbered_of_full_lines : ∃ soc : Soc,
    (Soc.run { irq := { count := 2, reserved := .ofList [("late", 1)] } }
      [.timer "early", .location .csr "ctrl" (some 2) false, .timer "third"]).result = .ok soc ∧
    soc.irq.locations.slots.entries = [("early", 0), ("late", 1)] ∧
    soc.csr.locations.slots.entries = [("ctrl", 2), ("early", 0), ("third", 1)] ∧
    soc.irq.locations.Numbered ∧
    ∀ name, (soc.irq.locations.allocate name).result = .error (.capacityExhausted "IRQ" 2) := by
  have evaluated : (do
      let soc ← Soc.run { irq := { count := 2, reserved := .ofList [("late", 1)] } }
        [.timer "early", .location .csr "ctrl" (some 2) false, .timer "third"]
      pure (soc.irq.locations.slots.entries, soc.csr.locations.slots.entries,
        soc.irq.locations.space) :
      Verdict (List (String × UInt32) × List (String × UInt32) × String)).result =
        .ok ([("early", 0), ("late", 1)], [("ctrl", 2), ("early", 0), ("third", 1)], "IRQ") := by
    decide +kernel
  simp only [Verdict.bind_ok_iff, Verdict.result_pure, Except.ok.injEq, Prod.mk.injEq] at evaluated
  obtain ⟨soc, ran, lines, registers, space⟩ := evaluated
  obtain ⟨-, ⟨capacity, -⟩, numbered⟩ := numbered_throughout.2 _ _ soc ran
  refine ⟨soc, ran, lines, registers, numbered, fun name => ?_⟩
  rw [numbered.exhausted, space, capacity, size, NameMap.size, lines]
  exact ⟨rfl, rfl⟩

end LocationTable

end SystemOnChip
