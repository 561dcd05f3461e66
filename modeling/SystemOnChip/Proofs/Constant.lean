import SystemOnChip.Constant
import SystemOnChip.Proofs.Call
import SystemOnChip.Proofs.Names

/-! Constants are defined once: a definition adds a key that was free, or leaves
the table as it is. -/
namespace SystemOnChip.ConstantTable

inductive Step (table : ConstantTable) : ConstantTable → Prop where
  | insert {key value} (fresh : table.entries.contains key = false) :
      Step table ⟨table.entries.insert key value⟩

variable {table : ConstantTable} {name : String}

theorem define_of_fresh (value : Constant)
    (fresh : table.entries.contains (Text.upper name) = false) :
    (define name value table).result = .ok () ∧
      (define name value table).state = ⟨table.entries.insert (Text.upper name) value⟩ := by
  simp only [define, Call.ask, Call.update, Bind.bind, Call.bind, fresh, Bool.false_eq_true,
    if_false, pure, and_self]

theorem define_of_known (value : Constant)
    (known : table.entries.contains (Text.upper name) = true) :
    (define name value table).result = .error (.duplicateConstant (Text.upper name)) ∧
      (define name value table).state = table := by
  simp only [define, Call.ask, Bind.bind, Call.bind, known, if_true, Verdict.failWith, and_self]

theorem define_runs {value : Constant} : (define name value).Runs Step table fun _ after =>
    table.entries.contains (Text.upper name) = false ∧
      after = ⟨table.entries.insert (Text.upper name) value⟩ := by
  cases held : table.entries.contains (Text.upper name) with
  | false =>
    obtain ⟨-, moved⟩ := define_of_fresh value held
    exact ⟨moved ▸ .single (.insert held), fun _ _ => ⟨rfl, moved⟩⟩
  | true =>
    obtain ⟨failed, stays⟩ := define_of_known value held
    exact ⟨stays.symm ▸ .refl, fun _ ended => by rw [failed] at ended; contradiction⟩

/-- A call on a table of constants, as data. -/
inductive Definition where
  | constant (name : String) (value : Constant)
  | setting (name : String) (value : Constant)

def Definition.perform : Definition → Call ConstantTable Unit
  | constant name value => define name value
  | setting name value => configure name value

end SystemOnChip.ConstantTable
