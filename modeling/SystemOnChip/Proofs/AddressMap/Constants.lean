import SystemOnChip.Proofs.AddressMap.Finalize
import SystemOnChip.Proofs.Constant

/-! What finishing a system adds to its constants: one entry for each constant
that is published with the registers, then one for each interrupt line, and
nothing else. -/
namespace SystemOnChip

namespace NameMap
variable {α : Type} {name : String} {value : α}

theorem bind_perm {entries : List (String × α)} (fresh : name ∉ entries.map (·.1)) :
    (bind name value entries).Perm ((name, value) :: entries) := by
  induction entries with
  | nil => exact .refl _
  | cons head rest ih =>
    rw [List.map_cons, List.mem_cons, not_or] at fresh
    obtain ⟨different, fresh⟩ := fresh
    rw [bind, if_neg different]
    split
    · exact .refl _
    · exact ((ih fresh).cons head).trans (.swap _ _ _)

/-- A map gains just the entry that is inserted under a new name. -/
theorem insert_perm {map : NameMap α} (fresh : map.contains name = false) :
    (map.insert name value).entries.Perm (map.entries ++ [(name, value)]) := by
  rw [Bool.eq_false_iff, ne_eq, contains_iff] at fresh
  exact (bind_perm fresh).trans (List.perm_append_singleton _ _).symm

end NameMap

namespace ConstantTable

/-- The later table has the entries of the earlier one and the added ones, each
under a key of its own. -/
def Gains (table : ConstantTable) (added : List (String × Constant)) (after : ConstantTable) :
    Prop :=
  after.entries.entries.Perm (table.entries.entries ++ added)

variable {table middle after : ConstantTable} {first second : List (String × Constant)}

theorem Gains.nil : table.Gains [] table := by
  rw [Gains, List.append_nil]

theorem Gains.append (gained : table.Gains first middle) (more : middle.Gains second after) :
    table.Gains (first ++ second) after := by
  rw [Gains, ← List.append_assoc]
  exact more.trans (gained.append_right second)

theorem define_gains {name : String} {value : Constant} : (define name value).Runs Step table
    fun _ => table.Gains [(Text.upper name, value)] := by
  refine .weaken define_runs fun _ after ⟨fresh, moved⟩ => ?_
  rw [Gains, moved]
  exact NameMap.insert_perm fresh

/-- A loop that adds one entry for each item adds them all. -/
theorem forM_gains {α : Type} {items : List α} {body : α → Call ConstantTable PUnit}
    {entry : α → String × Constant}
    (each : ∀ item ∈ items, ∀ table,
      (body item).Runs Step table fun _ => table.Gains [entry item]) :
    (items.forM body).Runs Step table fun _ => table.Gains (items.map entry) := by
  induction items generalizing table with
  | nil => exact .pure .nil
  | cons item rest ih =>
    refine .bind (each item List.mem_cons_self table) fun _ middle gained => ?_
    refine .weaken (ih fun other member => each other (List.mem_cons_of_mem _ member)) ?_
    exact fun _ _ more => gained.append more

end ConstantTable

namespace Soc
variable {soc : Soc} {map : AddressMap} {table : ConstantTable}

theorem publish_runs {constants : List (String × Constant)} :
    (publish constants).Runs ConstantTable.Step table fun _ =>
      table.Gains (constants.map fun constant => (Text.upper constant.1, constant.2)) :=
  ConstantTable.forM_gains fun _ _ _ => ConstantTable.define_gains

theorem eventSource_of_required {name : String} {value : Unit}
    (required : (soc.requireEventSource name).result = .ok value) :
    ∃ peripheral, soc.peripheral? name = some peripheral ∧ peripheral.eventSource = true := by
  unfold requireEventSource at required
  split at required
  next source => exact (Option.any_eq_true _ _).mp source
  next =>
    rw [Verdict.result_orDump] at required
    contradiction

theorem connectLines_runs {lines : List (String × UInt32)} :
    (soc.connectLines lines).Runs ConstantTable.Step table fun _ =>
      table.Gains (lines.map fun line =>
        (Text.upper s!"{line.1}_INTERRUPT", .int line.2.toUInt64)) :=
  ConstantTable.forM_gains fun _ _ _ => .bind_ask fun _ _ => ConstantTable.define_gains

/-- Every line that is connected is driven by a component with an event source. -/
theorem connectLines_driven {lines : List (String × UInt32)} :
    (soc.connectLines lines).Runs ConstantTable.Step table fun _ _ => ∀ line ∈ lines,
      ∃ peripheral, soc.peripheral? line.1 = some peripheral ∧ peripheral.eventSource = true := by
  refine .forM_each (fun _ _ _ _ source => source) fun line _ middle => ?_
  refine .bind_ask fun _ required => ?_
  exact .weaken ConstantTable.define_runs fun _ _ _ => eventSource_of_required required

theorem constants_of_finalize (finished : soc.finalize.result = .ok map) :
    soc.constants.Gains
      (soc.csrConstants.map (fun constant => (Text.upper constant.1, constant.2)) ++
        soc.externalLines.map fun line =>
          (Text.upper s!"{line.1}_INTERRUPT", .int line.2.toUInt64)) map.constants := by
  obtain ⟨_, _, promoted, constants, -, -, published, -, connected, rfl⟩ :=
    finalize_ok_iff.mp finished
  obtain ⟨publishEnded, rfl⟩ := Call.completed_ok_iff.mp published
  obtain ⟨connectEnded, rfl⟩ := Call.completed_ok_iff.mp connected
  exact (publish_runs.done () publishEnded).append (connectLines_runs.done () connectEnded)

theorem sources_of_finalize (finished : soc.finalize.result = .ok map) :
    ∀ line ∈ soc.externalLines, ∃ peripheral,
      soc.peripheral? line.1 = some peripheral ∧ peripheral.eventSource = true := by
  obtain ⟨_, _, _, _, -, -, -, -, connected, -⟩ := finalize_ok_iff.mp finished
  obtain ⟨ended, -⟩ := Call.completed_ok_iff.mp connected
  exact connectLines_driven.done () ended

end Soc

end SystemOnChip
