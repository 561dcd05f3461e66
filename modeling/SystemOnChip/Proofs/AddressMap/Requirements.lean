import SystemOnChip.Proofs.AddressMap.Finalize
import SystemOnChip.Proofs.Constant
import SystemOnChip.Proofs.Requirement
import SystemOnChip.Proofs.Soc.Soundness

/-! What a system needs to be finished, in the order in which it is checked. The
first need that is not met is reported, and nothing else keeps a system from
being finished. -/
namespace SystemOnChip

namespace Requirement
variable {α : Type}

/-- Each item has needs of its own and then a key that nothing has used yet. -/
def claimKeys (needs : α → List Requirement) (key : α → String) (used : List String) :
    List α → List Requirement
  | [] => []
  | item :: rest => needs item ++
      ⟨!used.contains (key item), .duplicateConstant (key item)⟩ ::
        claimKeys needs key (used ++ [key item]) rest

theorem claimKeys_map {β : Type} {needs : β → List Requirement} {key : β → String}
    (f : α → β) (used : List String) (items : List α) :
    claimKeys needs key used (items.map f) =
      claimKeys (fun item => needs (f item)) (fun item => key (f item)) used items := by
  induction items generalizing used with
  | nil => rfl
  | cons item rest ih => rw [List.map_cons, claimKeys, claimKeys, ih]

end Requirement

namespace ConstantTable
open Requirement (claimKeys)
variable {table : ConstantTable} {used : List String}

/-- The keys of a table are those in a list. -/
def Uses (table : ConstantTable) (used : List String) : Prop :=
  ∀ key, table.entries.contains key = used.contains key

theorem Uses.insert (uses : table.Uses used) (key : String) (value : Constant) :
    Uses ⟨table.entries.insert key value⟩ (used ++ [key]) := by
  intro other
  rw [NameMap.contains_insert, uses other, List.contains_append, Bool.or_comm,
    List.contains_cons, List.contains_nil, Bool.or_false]

theorem uses_names (table : ConstantTable) : table.Uses (table.entries.entries.map (·.1)) := by
  intro key
  rw [Bool.eq_iff_iff, NameMap.contains_iff, List.contains_iff_mem]

theorem define_demands (uses : table.Uses used) (name : String) (value : Constant) :
    (define name value).Demands table
      [⟨!used.contains (Text.upper name), .duplicateConstant (Text.upper name)⟩]
      (·.Uses (used ++ [Text.upper name])) := by
  cases held : table.entries.contains (Text.upper name) with
  | false =>
    obtain ⟨result, moved⟩ := define_of_fresh value held
    rw [uses] at held
    constructor
    · apply Verdict.demands_one
      rw [result, held]
      rfl
    · intro _ _
      rw [moved]
      exact uses.insert _ _
  | true =>
    obtain ⟨result, -⟩ := define_of_known value held
    rw [uses] at held
    constructor
    · apply Verdict.demands_one
      rw [result, held]
      rfl
    · intro _ ended
      rw [result] at ended
      contradiction

theorem forM_demands {α : Type} {body : α → Call ConstantTable Unit}
    {needs : α → List Requirement} {key : α → String}
    (each : ∀ item (table : ConstantTable) used, table.Uses used → (body item).Demands table
      (needs item ++ [⟨!used.contains (key item), .duplicateConstant (key item)⟩])
      (·.Uses (used ++ [key item]))) (items : List α) (uses : table.Uses used) :
    (items.forM body).Demands table (claimKeys needs key used items)
      (·.Uses (used ++ items.map key)) := by
  induction items generalizing table used with
  | nil =>
    refine ⟨Verdict.demands_nil rfl, fun _ _ => ?_⟩
    rw [List.map_nil, List.append_nil]
    exact uses
  | cons item rest ih =>
    have first := (each item table used uses).bind fun _ _ uses => ih uses
    rw [List.append_assoc, List.append_assoc] at first
    exact first

end ConstantTable

namespace Soc
open Requirement (claimKeys)

/-- Pages need the bus region of the registers. -/
def pageNeeds (soc : Soc) : List Requirement :=
  if soc.csr.locations.isEmpty then []
  else [⟨soc.bus.regions.contains csrRegionName, .missingRequiredRegion csrRegionName⟩]

def promotedKeys (soc : Soc) : List String :=
  soc.csr.locations.byLocation.flatMap fun location =>
    ((soc.peripherals.get? location.1).elim [] (·.constants)).map fun constant =>
      Text.upper s!"{location.1}_{constant.1}"

/-- A processor boots from two regions, of which the bus or only software knows. -/
def bootNeeds (soc : Soc) : List Requirement :=
  match soc.cpu with
  | none => []
  | some cpu =>
    if cpu.name = "none" then []
    else ["rom", "sram"].map fun name =>
      ⟨soc.bus.regions.contains name || soc.bus.linkerRegions.contains name,
        .missingRequiredRegion name⟩

/-- The interrupt lines that the processor leaves to others, by name. -/
def externalNames (soc : Soc) : List String :=
  match soc.cpu with
  | none => []
  | some cpu =>
    if cpu.interruptLines then
      (soc.irq.locations.slots.entries.map (·.1)).filter fun name => !cpu.interrupts.contains name
    else []

def interruptKey (name : String) : String := Text.upper s!"{name}_INTERRUPT"

/-- A line is driven by a component of its name with an event source. -/
def eventNeed (soc : Soc) (name : String) : Requirement :=
  ⟨(soc.peripherals.get? name).any (·.eventSource), .missingEventSource name⟩

def requirements (soc : Soc) : List Requirement :=
  let declared := soc.constants.entries.entries.map (·.1)
  soc.pageNeeds ++ claimKeys (fun _ => []) id declared soc.promotedKeys ++ soc.bootNeeds ++
    claimKeys (fun name => [soc.eventNeed name]) interruptKey (declared ++ soc.promotedKeys)
      soc.externalNames

variable {soc : Soc} {used : List String}

/-- Bus regions are placed, so that one of the registers gives its pages an origin. -/
theorem csrPages_demands (sound : soc.bus.Sound) : soc.csrPages.Demands soc.pageNeeds := by
  have empty : soc.csr.locations.byLocation.isEmpty = soc.csr.locations.isEmpty :=
    (List.mergeSort_perm _ _).isEmpty_eq
  simp only [csrPages, pageNeeds, empty]
  split
  next => exact Verdict.demands_nil rfl
  next =>
    apply Verdict.demands_one
    cases found : soc.bus.regions.get? csrRegionName with
    | none => simp [RegionTable.contains, found, Except.map]
    | some region =>
      obtain ⟨origin, given⟩ := Option.isSome_iff_exists.mp (sound.region_placed found).origin
      simp [RegionTable.contains, found, given, Except.map]

theorem promotedKeys_eq :
    soc.promotedKeys = soc.csrConstants.map fun constant => Text.upper constant.1 := by
  rw [promotedKeys, csrConstants, List.map_flatMap]
  refine List.flatMap_congr fun location _ => ?_
  simp only [peripheral?]
  cases soc.peripherals.get? location.1 with
  | none => rfl
  | some peripheral =>
    rw [List.map_map]
    rfl

theorem publish_demands (soc : Soc) {table : ConstantTable} (uses : table.Uses used) :
    (publish soc.csrConstants).Demands table (claimKeys (fun _ => []) id used soc.promotedKeys)
      (·.Uses (used ++ soc.promotedKeys)) := by
  rw [promotedKeys_eq, Requirement.claimKeys_map]
  exact ConstantTable.forM_demands
    (fun constant _ _ uses => ConstantTable.define_demands uses constant.1 constant.2) _ uses

theorem requireBootRegions_demands : soc.requireBootRegions.Demands soc.bootNeeds := by
  rw [requireBootRegions, bootNeeds]
  cases soc.cpu with
  | none => exact Verdict.demands_nil rfl
  | some cpu =>
    dsimp only
    rw [Cpu.isNone]
    by_cases absent : cpu.name = "none"
    · rw [if_pos absent, if_pos (beq_iff_eq.mpr absent)]
      exact Verdict.demands_nil rfl
    · rw [if_neg absent, if_neg (by rwa [beq_iff_eq])]
      refine Verdict.demands_forM (fun name => Verdict.demands_one ?_) bootRegions
      rw [Bus.declares]
      split <;> rfl

theorem externalNames_eq : soc.externalNames = soc.externalLines.map (·.1) := by
  rw [externalNames, externalLines]
  cases soc.cpu with
  | none => rfl
  | some cpu =>
    dsimp only
    split
    next => rw [List.filter_map]; rfl
    next => rfl

theorem requireEventSource_demands (name : String) :
    (soc.requireEventSource name).Demands [soc.eventNeed name] := by
  apply Verdict.demands_one
  unfold requireEventSource eventNeed peripheral?
  split
  next => rfl
  next => rw [Verdict.result_orDump]; rfl

theorem connectLines_demands {table : ConstantTable} (uses : table.Uses used) :
    (soc.connectLines soc.externalLines).Demands table
      (claimKeys (fun name => [soc.eventNeed name]) interruptKey used soc.externalNames)
      (·.Uses (used ++ soc.externalNames.map interruptKey)) := by
  rw [externalNames_eq, Requirement.claimKeys_map, List.map_map]
  refine ConstantTable.forM_demands (fun line table used uses => ?_) _ uses
  refine .bind (.ask (requireEventSource_demands line.1)) fun _ middle same => ?_
  subst middle
  exact ConstantTable.define_demands uses _ _

/-- The decoders of all slaves exist, so that nothing else is demanded. -/
theorem finalize_demands (sound : soc.bus.Sound) : soc.finalize.Demands soc.requirements := by
  obtain ⟨slaves, -, connected⟩ := busInterconnect_ok sound
  obtain ⟨published, uses⟩ := (publish_demands soc soc.constants.uses_names).completed
  have whole : soc.finalize.Demands _ :=
    .bind (Verdict.demands_nil (Verdict.result_info _)) fun _ _ =>
    .bind (Verdict.demands_nil connected) fun _ _ =>
    .bind (csrPages_demands sound) fun _ _ =>
    .bind published fun constants ended =>
    .bind requireBootRegions_demands fun _ _ =>
    .bind (connectLines_demands (uses constants ended)).completed.1 fun _ _ =>
    Verdict.demands_nil (Verdict.result_pure _)
  simpa only [requirements, List.nil_append, List.append_nil, List.append_assoc] using whole

theorem finalize_ok_of_met (sound : soc.bus.Sound)
    (met : ∀ requirement ∈ soc.requirements, requirement.met = true) :
    ∃ map, soc.finalize.result = .ok map := by
  have judged := (finalize_demands sound).trans (Requirement.judge_ok_iff.mpr met)
  cases ended : soc.finalize.result with
  | ok map => exact ⟨map, rfl⟩
  | error fault =>
    rw [ended] at judged
    contradiction

/-- A system is finished exactly if it meets all requirements, and else the first
that it does not meet is reported. Locations are gone through in their order. -/
theorem finalize_iff_requirements (reached : soc.Reachable) :
    (soc.csr.locations.byLocation.Perm soc.csr.locations.slots.entries ∧
      soc.csr.locations.byLocation.Pairwise (·.2 < ·.2)) ∧
    ((∃ map, soc.finalize.result = .ok map) ↔
      ∀ requirement ∈ soc.requirements, requirement.met = true) ∧
    ∀ fault, soc.finalize.result = .error fault ↔ ∃ requirement,
      Requirement.firstUnmet soc.requirements = some requirement ∧ requirement.fault = fault := by
  have sound := reached.sound
  have demands := finalize_demands sound.bus
  rw [Verdict.Demands] at demands
  refine ⟨⟨List.mergeSort_perm _ _, sound.csr.locations.byLocation_increasing⟩, ?_, fun fault => ?_⟩
  · rw [← Requirement.judge_ok_iff, ← demands]
    cases soc.finalize.result <;> simp [Except.map]
  · rw [← Requirement.judge_error_iff, ← demands]
    cases soc.finalize.result <;> simp [Except.map]

/-- The constants of two components get their keys in the order of the locations. The key of
an interrupt was defined before, in lower case. -/
theorem interrupt_key_is_first_unmet : ∃ soc : Soc, soc.Reachable ∧
    soc.requirements = [⟨true, .missingRequiredRegion "csr"⟩, ⟨true, .duplicateConstant "LED_WIDTH"⟩,
      ⟨true, .duplicateConstant "FAN_SPEED"⟩, ⟨true, .missingRequiredRegion "rom"⟩,
      ⟨true, .missingRequiredRegion "sram"⟩, ⟨true, .missingEventSource "led"⟩,
      ⟨false, .duplicateConstant "LED_INTERRUPT"⟩] ∧
    soc.finalize.result = .error (.duplicateConstant "LED_INTERRUPT") := by
  let fan : Peripheral := { kind := .other, constants := [("speed", .int 3)] }
  let led : Peripheral := { kind := .other, eventSource := true, constants := [("width", .int 8)] }
  have evaluated : (do
      let soc ← run windowed [.csrBridge 0xf0000000, .rom "rom" 0 0x1000,
        .ram "sram" 0x10000000 0x1000 .readWrite, .constant "led_interrupt" (.int 7),
        .peripheral "fan" fan, .location .csr "fan" (some 4) false, .peripheral "led" led,
        .location .csr "led" (some 2) false, .location .irq "led" none false,
        .cpu { name := "core", interruptLines := true }]
      pure soc.requirements : Verdict (List Requirement)).result =
      .ok [⟨true, .missingRequiredRegion "csr"⟩, ⟨true, .duplicateConstant "LED_WIDTH"⟩,
        ⟨true, .duplicateConstant "FAN_SPEED"⟩, ⟨true, .missingRequiredRegion "rom"⟩,
        ⟨true, .missingRequiredRegion "sram"⟩, ⟨true, .missingEventSource "led"⟩,
        ⟨false, .duplicateConstant "LED_INTERRUPT"⟩] := by
    simp only [requirements, promotedKeys, LocationTable.byLocation,
      Sorting.mergeSort_key_eq_insertionSort]
    decide +kernel
  simp only [Verdict.bind_ok_iff, Verdict.result_pure, Except.ok.injEq] at evaluated
  obtain ⟨soc, ran, listed⟩ := evaluated
  have reached := reachable_of_run ran
  refine ⟨soc, reached, listed, ?_⟩
  apply ((finalize_iff_requirements reached).2.2 _).mpr
  rw [listed]
  exact ⟨_, rfl, rfl⟩

end Soc

end SystemOnChip
