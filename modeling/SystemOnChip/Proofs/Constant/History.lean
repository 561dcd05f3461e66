import SystemOnChip.Proofs.Call.Transcript
import SystemOnChip.Proofs.Constant

/-! What a table of constants remembers of the definitions that were tried on it, as
constants or as settings: the first one of each name in capitals. -/
namespace SystemOnChip.ConstantTable

namespace Definition

/-- The name that is defined. That of a setting has a prefix, and ends in the text of the
setting if it has one. -/
def fullName : Definition → String
  | constant name _ => name
  | setting name (.str text) => "CONFIG_" ++ name ++ "_" ++ text
  | setting name _ => "CONFIG_" ++ name

/-- Definitions meet under one key where their names are the same in capitals. -/
def key (definition : Definition) : String := Text.upper definition.fullName

/-- The value that is bound. A text that is in the name already leaves a flag. -/
def value : Definition → Constant
  | constant _ value => value
  | setting _ (.str _) => .flag
  | setting _ value => value

variable {table : ConstantTable}

theorem perform_eq (definition : Definition) :
    definition.perform = define definition.fullName definition.value := by
  cases definition with
  | constant name value => rfl
  | setting name value => cases value <;> rfl

theorem perform_of_fresh {definition : Definition}
    (fresh : table.entries.contains definition.key = false) :
    (definition.perform table).result = .ok () ∧ (definition.perform table).state =
      ⟨table.entries.insert definition.key definition.value⟩ := by
  rw [perform_eq]
  exact define_of_fresh definition.value fresh

theorem perform_of_known {definition : Definition}
    (known : table.entries.contains definition.key = true) :
    (definition.perform table).result = .error (.duplicateConstant definition.key) ∧
      (definition.perform table).state = table := by
  rw [perform_eq]
  exact define_of_known definition.value known

end Definition

/-- Each key is bound to the value of its first definition. -/
def Reflects (table : ConstantTable) (history : List Definition) : Prop :=
  ∀ key, table.entries.get? key = (history.find? (·.key == key)).map (·.value)

namespace Reflects
variable {table : ConstantTable} {history : List Definition}

theorem empty : Reflects {} [] := fun _ => rfl

theorem contains_iff (reflects : table.Reflects history) {key : String} :
    table.entries.contains key = true ↔ ∃ earlier ∈ history, earlier.key = key := by
  rw [NameMap.contains, reflects key]
  simp

theorem perform (reflects : table.Reflects history) (next : Definition) :
    (next.perform table).state.Reflects (history ++ [next]) := by
  intro key
  rw [List.find?_append, Option.map_or, ← reflects key]
  cases held : table.entries.contains next.key with
  | false =>
    rw [(Definition.perform_of_fresh held).2, NameMap.get?_insert]
    by_cases same : next.key = key
    · subst same
      simp [NameMap.contains_eq_false_iff.mp held]
    · simp [same, Ne.symm same]
  | true =>
    rw [(Definition.perform_of_known held).2]
    by_cases same : next.key = key
    · subst same
      obtain ⟨value, bound⟩ := Option.isSome_iff_exists.mp held
      rw [bound, Option.some_or]
    · simp [same]

theorem perform_ok_iff (reflects : table.Reflects history) {next : Definition} :
    (next.perform table).result = .ok () ↔ ∀ earlier ∈ history, earlier.key ≠ next.key := by
  have known : table.entries.contains next.key = true ↔ _ := reflects.contains_iff
  cases held : table.entries.contains next.key with
  | false =>
    rw [(Definition.perform_of_fresh held).1]
    simpa [held] using known
  | true =>
    rw [(Definition.perform_of_known held).1]
    simpa [held] using known

theorem perform_error_iff (reflects : table.Reflects history) {next : Definition}
    {fault : Fault} : (next.perform table).result = .error fault ↔
      fault = .duplicateConstant next.key ∧ ∃ earlier ∈ history, earlier.key = next.key := by
  rw [← reflects.contains_iff]
  cases held : table.entries.contains next.key with
  | false =>
    rw [(Definition.perform_of_fresh held).1]
    simp
  | true =>
    rw [(Definition.perform_of_known held).1]
    simp [eq_comm]

end Reflects

/-- After any definitions on an empty table, refused ones included, the next one is accepted
just if none of them has its key, and is refused for its key otherwise. A name is found
with the value of the first of them whose key is the name in capitals. -/
theorem first_definition_wins (history : List Definition) (next : Definition) :
    let table := Call.leaves Definition.perform {} history
    ((next.perform table).result = .ok () ↔ ∀ earlier ∈ history, earlier.key ≠ next.key) ∧
    (∀ fault, (next.perform table).result = .error fault ↔
      fault = .duplicateConstant next.key ∧ ∃ earlier ∈ history, earlier.key = next.key) ∧
    ∀ name, table.get? name = (history.find? (·.key == Text.upper name)).map (·.value) := by
  have reflects : Reflects (Call.leaves Definition.perform {} history) history :=
    Call.holds_leaves (fun history table => Reflects table history) Reflects.empty
      (fun _ next _ reflects => reflects.perform next) history
  exact ⟨reflects.perform_ok_iff, fun _ => reflects.perform_error_iff, fun name => reflects _⟩

/-- The flag of a setting is not defined again, and capitals may be longer than a name. -/
theorem flag_of_setting_wins :
    let history : List Definition := [.constant "straße" (.int 1), .setting "cpu" (.str "rv")]
    let next : Definition := .constant "Config_CPU_rv" (.int 2)
    let table := Call.leaves Definition.perform {} history
    (∃ earlier ∈ history, earlier.key = next.key) ∧
      (next.perform table).result = .error (.duplicateConstant "CONFIG_CPU_RV") ∧
      table.get? "STRASSE" = some (.int 1) ∧ table.get? "config_cpu" = none := by
  intro history next table
  obtain ⟨-, refused, found⟩ := first_definition_wins history next
  have known : ∃ earlier ∈ history, earlier.key = next.key :=
    ⟨.setting "cpu" (.str "rv"), by simp [history], by decide +kernel⟩
  have key : next.key = "CONFIG_CPU_RV" := by decide +kernel
  refine ⟨known, ?_, ?_, ?_⟩
  · rw [← key]
    exact (refused _).mpr ⟨rfl, known⟩
  · exact (found _).trans (by decide +kernel)
  · exact (found _).trans (by decide +kernel)

end SystemOnChip.ConstantTable
