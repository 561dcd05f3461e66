import SystemOnChip.Proofs.Call

/-! Failures in the log. A call reports its failures if it ends with one error event where it
fails, the fault and a dump of the tables that it leaves, and emits no other error event. -/
namespace SystemOnChip

/-- The error events of a log, in their order. -/
def Event.errors (log : List Event) : List Event := log.filter (·.level == .error)

theorem Event.errors_append (log more : List Event) :
    errors (log ++ more) = errors log ++ errors more := List.filter_append ..

namespace Verdict
variable {α β : Type}

/-- Whether it fails or not, the verdict emits no error event. -/
def Quiet (verdict : Verdict α) : Prop := Event.errors verdict.log = []

/-- The event of a failure: the fault, and a dump of the tables it arises from. -/
def report (fault : Fault) (dump : String) : Event := ⟨.error, s!"{fault.message}\n{dump}"⟩

/-- The verdict emits one error event where it fails, the report of its fault, and none
where it does not. -/
def Reports (verdict : Verdict α) (dump : String) : Prop :=
  Event.errors verdict.log =
    match verdict.result with
    | .ok _ => []
    | .error fault => [report fault dump]

theorem log_bind_of_ok {verdict : Verdict α} (next : α → Verdict β) {value : α}
    (answered : verdict.result = .ok value) :
    (verdict >>= next).log = verdict.log ++ (next value).log := by
  change (bind verdict next).log = _
  simp only [bind, answered]

theorem log_bind_of_error {verdict : Verdict α} (next : α → Verdict β) {fault : Fault}
    (failed : verdict.result = .error fault) : (verdict >>= next).log = verdict.log := by
  change (bind verdict next).log = _
  simp only [bind, failed]

namespace Quiet

theorem pure {value : α} : (Pure.pure value : Verdict α).Quiet := rfl

theorem fail {fault : Fault} : (Verdict.fail fault : Verdict α).Quiet := rfl

theorem require {condition : Bool} {fault : Fault} :
    (Verdict.require condition fault).Quiet := by
  cases condition
  · exact fail
  · exact pure

theorem bind {verdict : Verdict α} {next : α → Verdict β} (first : verdict.Quiet)
    (rest : ∀ value, (next value).Quiet) : (verdict >>= next).Quiet := by
  cases ended : verdict.result with
  | error fault => rwa [Quiet, log_bind_of_error next ended]
  | ok value =>
    rw [Quiet, log_bind_of_ok next ended, Event.errors_append, first, List.nil_append]
    exact rest value

end Quiet

/-- A verdict that is quiet so far reports its failure together with the dump. -/
theorem Reports.orDump {verdict : Verdict α} {dump : String} (quiet : verdict.Quiet) :
    (verdict.orDump dump).Reports dump := by
  obtain ⟨result, log⟩ := verdict
  cases result with
  | ok value => exact quiet
  | error fault =>
    have silent : Event.errors log = [] := quiet
    change Event.errors (log ++ [report fault dump]) = [report fault dump]
    rw [Event.errors_append, silent]
    rfl

end Verdict

namespace Call
variable {σ τ α β : Type} {dump : σ → String}

/-- On this state, the call reports its failure with a dump of the state that it leaves. -/
def ReportsAt (call : Call σ α) (state : σ) (dump : σ → String) : Prop :=
  (call state).toVerdict.Reports (dump (call state).state)

/-- The call reports its failures on every state. -/
def Reports (call : Call σ α) (dump : σ → String) : Prop := ∀ state, call.ReportsAt state dump

theorem log_bind_of_ok {call : Call σ α} (next : α → Call σ β) {state : σ} {value : α}
    (ended : (call state).result = .ok value) :
    ((call >>= next) state).log = (call state).log ++ (next value (call state).state).log := by
  change (bind call next state).log = _
  simp only [bind, ended]

theorem log_bind_of_error {call : Call σ α} (next : α → Call σ β) {state : σ} {fault : Fault}
    (ended : (call state).result = .error fault) :
    ((call >>= next) state).log = (call state).log := by
  change (bind call next state).log = _
  simp only [bind, ended]

theorem log_map {call : Call σ α} {f : α → β} {state : σ} :
    ((f <$> call) state).log = (call state).log := by
  cases ended : (call state).result with
  | error fault => exact log_bind_of_error _ ended
  | ok value => exact (log_bind_of_ok _ ended).trans (List.append_nil _)

/-- How a value is answered does not change what is reported. -/
theorem reportsAt_map_iff {call : Call σ α} {f : α → β} {state : σ} :
    (f <$> call).ReportsAt state dump ↔ call.ReportsAt state dump := by
  rw [ReportsAt, ReportsAt, Verdict.Reports, Verdict.Reports, log_map, result_map, state_map]
  cases (call state).result <;> rfl

namespace Reports

theorem pure {value : α} : (Pure.pure value : Call σ α).Reports dump := fun _ => rfl

theorem info {message : String} : (Call.info message : Call σ Unit).Reports dump := fun _ => rfl

theorem update {change : σ → σ} : (Call.update change).Reports dump := fun _ => rfl

theorem current : (Call.current : Call σ σ).Reports dump := fun _ => rfl

theorem ask {question : σ → Verdict α} (reports : ∀ state, (question state).Reports (dump state)) :
    (Call.ask question).Reports dump := reports

/-- The part that fails makes the report, on the state that it leaves. -/
theorem bind {call : Call σ α} {next : α → Call σ β} (first : call.Reports dump)
    (rest : ∀ value, (next value).Reports dump) : (call >>= next).Reports dump := by
  intro state
  have reported := first state
  cases ended : (call state).result with
  | error fault =>
    obtain ⟨failed, stays⟩ := bind_error next ended
    rw [ReportsAt, Verdict.Reports, ended] at reported
    rw [ReportsAt, Verdict.Reports, log_bind_of_error next ended, failed, stays]
    exact reported
  | ok value =>
    obtain ⟨result, moves⟩ := bind_ok next ended
    rw [ReportsAt, Verdict.Reports, ended] at reported
    rw [ReportsAt, Verdict.Reports, log_bind_of_ok next ended, Event.errors_append, reported,
      result, moves]
    exact rest value (call state).state

theorem map {call : Call σ α} {f : α → β} (reports : call.Reports dump) :
    (f <$> call).Reports dump := fun state => reportsAt_map_iff.mpr (reports state)

/-- A call on a part reports what the part has. -/
theorem on {part : σ → τ} {put : τ → σ → σ} {inner : Call τ α} {dump : τ → String}
    (reports : inner.Reports dump) (taken : ∀ piece state, part (put piece state) = piece) :
    (inner.on part put).Reports (dump ∘ part) := by
  intro state
  change Verdict.Reports _ (dump (part (put _ state)))
  rw [taken]
  exact reports (part state)

end Reports

end Call

end SystemOnChip
