import SystemOnChip.Proofs.Call

/-! Verdicts and calls in exact arithmetic. They have no end at all where an operation on words
has no exact result; otherwise they end with a value or a fault. A verdict or call computed in
exact arithmetic ends there as it does on words. -/
namespace SystemOnChip

/-- A verdict in exact arithmetic. -/
abbrev Verdict.Exact (α : Type) : Type := ExceptT Fault Option α

/-- A call in exact arithmetic, with the state that it leaves. -/
abbrev Call.Exact (σ α : Type) : Type := ExceptT Fault (StateT σ Option) α

namespace Verdict
variable {α β : Type}

/-- A verdict without arithmetic. -/
def exactly (verdict : Verdict α) : Verdict.Exact α := ExceptT.mk (some verdict.result)

/-- No operation of the verdict is inexact, and it ends as in exact arithmetic. -/
def ComputedBy (verdict : Verdict α) (checked : Verdict.Exact α) : Prop :=
  checked.run = some verdict.result

namespace ComputedBy

theorem exactly {verdict : Verdict α} : verdict.ComputedBy verdict.exactly := rfl

theorem pure {value : α} : (Pure.pure value : Verdict α).ComputedBy (Pure.pure value) := rfl

theorem bind {verdict : Verdict α} {next : α → Verdict β} {checked : Verdict.Exact α}
    {checkedNext : α → Verdict.Exact β} (first : verdict.ComputedBy checked)
    (rest : ∀ value, verdict.result = .ok value → (next value).ComputedBy (checkedNext value)) :
    (verdict >>= next).ComputedBy (checked >>= checkedNext) := by
  unfold ComputedBy at *
  rw [ExceptT.run_bind, first, Option.bind_eq_bind, Option.bind_some, result_bind]
  cases ended : verdict.result with
  | error fault => rfl
  | ok value => exact rest value ended

theorem bind_info {message : String} {next : Unit → Verdict β} {checked : Verdict.Exact β}
    (rest : (next ()).ComputedBy checked) : (info message >>= next).ComputedBy checked :=
  rest

/-- A test on words has its answer in exact arithmetic. -/
theorem bind_test {γ : Type} {next : Verdict β} {test : Option γ} {answer : γ}
    {checkedNext : γ → Verdict.Exact β} (answered : test = some answer)
    (rest : next.ComputedBy (checkedNext answer)) :
    next.ComputedBy (liftM test >>= checkedNext) := by
  subst answered
  exact rest

theorem mapM {items : List α} {judge : α → Verdict β} {checked : α → Verdict.Exact β}
    (each : ∀ item ∈ items, (judge item).ComputedBy (checked item)) :
    (items.mapM judge).ComputedBy (items.mapM checked) := by
  induction items with
  | nil => exact pure
  | cons item rest ih =>
    rw [List.mapM_cons, List.mapM_cons]
    refine bind (each item List.mem_cons_self) fun _ _ => ?_
    exact bind (ih fun other member => each other (List.mem_cons_of_mem _ member)) fun _ _ => pure

/-- A dump of the tables changes the log only. -/
theorem orDump {verdict : Verdict α} {checked : Verdict.Exact α} {dump : String}
    (computed : verdict.ComputedBy checked) : (verdict.orDump dump).ComputedBy checked :=
  computed.trans (congrArg some (result_orDump verdict dump).symm)

end ComputedBy

end Verdict

namespace Call
variable {σ τ α β : Type}

namespace Exact

def ask (question : σ → Verdict.Exact α) : Call.Exact σ α :=
  ExceptT.mk fun state => (question state).run.map (·, state)

def on (part : σ → τ) (put : τ → σ → σ) (call : Call.Exact τ α) : Call.Exact σ α :=
  ExceptT.mk fun state => (call.run.run (part state)).map fun ended => (ended.1, put ended.2 state)

def completed (call : Call.Exact σ Unit) (initial : σ) : Verdict.Exact σ :=
  ExceptT.mk ((call.run.run initial).map fun ended => ended.1.map fun _ => ended.2)

end Exact

/-- A call without arithmetic. -/
def exactly (call : Call σ α) : Call.Exact σ α :=
  ExceptT.mk fun state => some ((call state).result, (call state).state)

/-- From `state` on, no operation of the call is inexact, and it ends as in exact arithmetic, in
the same state. -/
def ComputedBy (call : Call σ α) (checked : Call.Exact σ α) (state : σ) : Prop :=
  checked.run.run state = some ((call state).result, (call state).state)

namespace ComputedBy
variable {state : σ}

theorem exactly {call : Call σ α} : call.ComputedBy call.exactly state := rfl

theorem pure {value : α} : (Pure.pure value : Call σ α).ComputedBy (Pure.pure value) state := rfl

theorem bind {call : Call σ α} {next : α → Call σ β} {checked : Call.Exact σ α}
    {checkedNext : α → Call.Exact σ β} (first : call.ComputedBy checked state)
    (rest : ∀ value, (call state).result = .ok value →
      (next value).ComputedBy (checkedNext value) (call state).state) :
    (call >>= next).ComputedBy (checked >>= checkedNext) state := by
  unfold ComputedBy at *
  rw [ExceptT.run_bind, StateT.run_bind, first, Option.bind_eq_bind, Option.bind_some]
  cases ended : (call state).result with
  | error fault =>
    obtain ⟨failed, stays⟩ := bind_error next ended
    rw [failed, stays]
    rfl
  | ok value =>
    obtain ⟨result, moves⟩ := bind_ok next ended
    rw [result, moves]
    exact rest value ended

/-- A test on words has its answer in exact arithmetic. -/
theorem bind_test {γ : Type} {next : Call σ β} {test : Option γ} {answer : γ}
    {checkedNext : γ → Call.Exact σ β} (answered : test = some answer)
    (rest : next.ComputedBy (checkedNext answer) state) :
    next.ComputedBy (liftM test >>= checkedNext) state := by
  subst answered
  exact rest

theorem map {call : Call σ α} {checked : Call.Exact σ α} {f : α → β}
    (computed : call.ComputedBy checked state) : (f <$> call).ComputedBy (f <$> checked) state := by
  rw [← bind_pure_comp f checked]
  exact bind computed fun _ _ => pure

theorem ask {question : σ → Verdict α} {checked : σ → Verdict.Exact α}
    (computed : (question state).ComputedBy (checked state)) :
    (Call.ask question).ComputedBy (Exact.ask checked) state :=
  congrArg (Option.map (·, state)) computed

theorem on {part : σ → τ} {put : τ → σ → σ} {call : Call τ α} {checked : Call.Exact τ α}
    (computed : call.ComputedBy checked (part state)) :
    (call.on part put).ComputedBy (checked.on part put) state :=
  congrArg (Option.map fun ended : Except Fault α × τ => (ended.1, put ended.2 state)) computed

theorem completed {call : Call σ Unit} {checked : Call.Exact σ Unit} {initial : σ}
    (computed : call.ComputedBy checked initial) :
    (call.completed initial).ComputedBy (checked.completed initial) :=
  congrArg (Option.map fun ended : Except Fault Unit × σ => ended.1.map fun _ => ended.2) computed

/-- In a loop each pass is computed on what the one before left, of which the invariant is known. -/
theorem forM {items : List α} {body : α → Call σ PUnit} {checked : α → Call.Exact σ PUnit}
    {keeps : σ → Prop} (initial : keeps state)
    (each : ∀ item ∈ items, ∀ middle, keeps middle →
      (body item).ComputedBy (checked item) middle ∧ keeps (body item middle).state) :
    (items.forM body).ComputedBy (items.forM checked) state := by
  induction items generalizing state with
  | nil => exact pure
  | cons item rest ih =>
    obtain ⟨computed, kept⟩ := each item List.mem_cons_self state initial
    refine bind computed fun _ _ => ?_
    exact ih kept fun other member => each other (List.mem_cons_of_mem _ member)

end ComputedBy

end Call

end SystemOnChip
