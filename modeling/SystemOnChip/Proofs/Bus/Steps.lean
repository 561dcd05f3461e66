import SystemOnChip.Proofs.Bus.Settle

/-! The steps that a bus takes. Calls that declare regions, masters and slaves
move the bus by such steps only, whether they fail or not. -/
namespace SystemOnChip.Bus
open Relation (ReflTransGen)

/-- The attachment has the width of the bus, by a converter exactly where its
interface has another one. -/
def Attachment.Matches (attachment : Attachment) (width : UInt32) : Prop :=
  attachment.dataWidth = width ∧
    attachment.converter =
      if attachment.interface.dataWidth = width then none
      else some ⟨attachment.interface.dataWidth, width⟩

/-- An interface that has the width already is attached as it is. -/
theorem Attachment.Matches.eq_of_interface {attachment : Attachment} {width : UInt32}
    (adapted : attachment.Matches width) (same : attachment.interface = ⟨width⟩) :
    attachment = ⟨⟨width⟩, none⟩ := by
  obtain ⟨interface, converter⟩ := attachment
  cases same
  have none : converter = none := adapted.2.trans (if_pos rfl)
  rw [none]

inductive Step (bus : Bus) : Bus → Prop where
  | region {name given stored} (settled : (bus.settle name given).result = .ok stored) :
      Step bus (bus.store name stored)
  | master {name attachment} (fresh : (bus.master? name).isNone)
      (adapted : attachment.Matches bus.dataWidth) :
      Step bus { bus with masters := bus.masters ++ [(name, attachment)] }
  | slave {name attachment} (fresh : (bus.slave? name).isNone)
      (declared : bus.regions.contains name = true)
      (adapted : attachment.Matches bus.dataWidth) :
      Step bus { bus with slaves := bus.slaves ++ [(name, attachment)] }

/-- A slave of this name is there, with this region. -/
def Serves (bus : Bus) (name : String) (region : Region) : Prop :=
  (bus.slave? name).isSome ∧ bus.regions.get? name = some region

/-- A master of this name is there, with this interface. -/
def HasMaster (bus : Bus) (name : String) (interface : Interface) : Prop :=
  ∃ attachment, bus.master? name = some attachment ∧ attachment.interface = interface

variable {bus : Bus} {name : String} {given stored : Region} {interface : Interface}

theorem matches_of_adapt {attachment : Attachment}
    (adapted : (bus.adapt name interface).result = .ok attachment) :
    attachment.Matches bus.dataWidth := by
  unfold adapt at adapted
  split at adapted
  next same =>
    cases adapted
    exact ⟨same, (if_pos same).symm⟩
  next other =>
    cases adapted
    exact ⟨rfl, (if_neg other).symm⟩

theorem interface_of_adapt {attachment : Attachment}
    (adapted : (bus.adapt name interface).result = .ok attachment) :
    attachment.interface = interface := by
  unfold adapt at adapted
  split at adapted <;> cases adapted <;> rfl

theorem chooseMaster_ok_iff {wanted : Option String} :
    (bus.chooseMaster wanted).result = .ok name ↔
      name = wanted.getD s!"master{bus.masters.length}" ∧ (bus.master? name).isNone := by
  simp only [chooseMaster, Verdict.bind_ok_iff, Verdict.require_ok_iff, Verdict.result_pure,
    Except.ok.injEq]
  constructor
  · rintro ⟨-, fresh, rfl⟩
    exact ⟨rfl, fresh⟩
  · rintro ⟨rfl, fresh⟩
    exact ⟨(), fresh, rfl⟩

theorem chooseSlave_ok_iff {wanted : Option String} {window : Option Region} :
    (bus.chooseSlave wanted window).result = .ok name ↔
      (wanted.isSome ∨ window.isSome) ∧ name = wanted.getD s!"slave{bus.slaves.length}" ∧
        (bus.slave? name).isNone ∧
        (∀ region, window = some region → region.kind = .bus) ∧
        (window = none → bus.regions.contains name = true) := by
  unfold chooseSlave
  cases window with
  | none =>
    simp only [Verdict.bind_ok_iff, Verdict.require_ok_iff, Verdict.result_pure, Except.ok.injEq,
      Bool.or_eq_true, reduceCtorEq, false_implies, implies_true, true_and, forall_const]
    constructor
    · rintro ⟨-, given, -, fresh, -, known, rfl⟩
      exact ⟨given, rfl, fresh, known⟩
    · rintro ⟨given, rfl, fresh, known⟩
      exact ⟨(), given, (), fresh, (), known, rfl⟩
  | some region =>
    simp only [Verdict.bind_ok_iff, Verdict.require_ok_iff, Verdict.result_pure, Except.ok.injEq,
      Bool.or_eq_true, Option.some.injEq, forall_eq', reduceCtorEq, false_implies, and_true,
      RegionKind.isDecoded, beq_iff_eq]
    constructor
    · rintro ⟨-, given, -, fresh, -, known, rfl⟩
      exact ⟨given, rfl, fresh, known⟩
    · rintro ⟨given, rfl, fresh, known⟩
      exact ⟨(), given, (), fresh, (), known, rfl⟩

theorem declareRegion_runs : (declareRegion name given).Runs Step bus fun answer after =>
    (bus.settle name given).result = .ok answer ∧ after = bus.store name answer := by
  refine .bind_ask fun answer asked => ?_
  rw [Verdict.result_orDump] at asked
  apply Call.Runs.bind_update (.region asked)
  dsimp only
  split <;> exact .bind_info (.pure ⟨asked, rfl⟩)

theorem attachMaster_runs {wanted : Option String} :
    (attachMaster wanted interface).Runs Step bus fun answer after =>
      (bus.chooseMaster wanted).result = .ok answer ∧ ∃ attachment,
        attachment.interface = interface ∧
        after = { bus with masters := bus.masters ++ [(answer, attachment)] } := by
  refine .bind_ask fun answer chosen => ?_
  rw [Verdict.result_orDump] at chosen
  refine .bind_ask fun attachment adapted => ?_
  have fresh := (chooseMaster_ok_iff.mp chosen).2
  apply Call.Runs.bind_update (.master fresh (matches_of_adapt adapted))
  exact .bind_info (.pure ⟨chosen, attachment, interface_of_adapt adapted, rfl⟩)

/-- The bus that a slave is attached to: its region is declared by then. -/
def Prepared (bus : Bus) (name : String) (window : Option Region) (middle : Bus) : Prop :=
  match window with
  | none => middle = bus
  | some region => ∃ stored, (bus.settle name region).result = .ok stored ∧
      middle = bus.store name stored

theorem Prepared.fields {middle : Bus} {window : Option Region}
    (prepared : bus.Prepared name window middle) :
    middle.slaves = bus.slaves ∧ middle.dataWidth = bus.dataWidth := by
  cases window with
  | none =>
    cases prepared
    exact ⟨rfl, rfl⟩
  | some region =>
    obtain ⟨stored, -, rfl⟩ := prepared
    unfold store
    split <;> exact ⟨rfl, rfl⟩

theorem Prepared.contains {middle : Bus} {wanted : Option String} {window : Option Region}
    (chosen : (bus.chooseSlave wanted window).result = .ok name)
    (prepared : bus.Prepared name window middle) : middle.regions.contains name = true := by
  obtain ⟨-, -, -, decoded, known⟩ := chooseSlave_ok_iff.mp chosen
  cases window with
  | none =>
    cases prepared
    exact known rfl
  | some region =>
    obtain ⟨stored, settled, rfl⟩ := prepared
    have kind := (settled_of_settle settled).2.trans (decoded region rfl)
    rw [RegionTable.contains_iff]
    change name ∈ ((bus.store name stored).table .bus).entries.map (·.1)
    rw [table_store_entries, if_pos kind, List.map_append]
    exact List.mem_append_right _ List.mem_cons_self

theorem attachSlave_runs {wanted : Option String} {window : Option Region} :
    (attachSlave wanted interface window).Runs Step bus fun answer after =>
      (bus.chooseSlave wanted window).result = .ok answer ∧
      ∃ middle attachment, bus.Prepared answer window middle ∧
        attachment.interface = interface ∧
        after = { middle with slaves := bus.slaves ++ [(answer, attachment)] } := by
  refine .bind_ask fun answer chosen => ?_
  rw [Verdict.result_orDump] at chosen
  have attached {middle : Bus} (prepared : bus.Prepared answer window middle) :
      (do
        let attachment ← Call.ask (·.adapt answer interface)
        Call.update fun bus : Bus => { bus with slaves := bus.slaves ++ [(answer, attachment)] }
        Call.info s!"{answer} added as bus slave"
        return answer : Call Bus String).Runs Step middle fun value after =>
          (bus.chooseSlave wanted window).result = .ok value ∧
          ∃ middle attachment, bus.Prepared value window middle ∧
            attachment.interface = interface ∧
            after = { middle with slaves := bus.slaves ++ [(value, attachment)] } := by
    have fresh : (middle.slave? answer).isNone := by
      rw [slave?, prepared.fields.1]
      exact (chooseSlave_ok_iff.mp chosen).2.2.1
    refine .bind_ask fun attachment adapted => ?_
    apply Call.Runs.bind_update
      (.slave fresh (prepared.contains chosen) (matches_of_adapt adapted))
    refine .bind_info (.pure ⟨chosen, middle, attachment, prepared, interface_of_adapt adapted, ?_⟩)
    rw [prepared.fields.1]
  cases window with
  | none => exact attached rfl
  | some region =>
    refine .bind (.discard declareRegion_runs) fun _ _ ⟨stored, declared⟩ => ?_
    exact attached ⟨stored, declared⟩

end SystemOnChip.Bus
