import SystemOnChip.Proofs.Call

/-! Requirements that are checked in their order, of which the first that is not
met is reported. Verdicts and calls are told apart from what they demand. -/
namespace SystemOnChip

/-- A need, and the fault that is reported where it is not met. -/
structure Requirement where
  met : Bool
  fault : Fault
deriving DecidableEq

namespace Requirement
variable {requirements others : List Requirement} {fault : Fault}

def firstUnmet (requirements : List Requirement) : Option Requirement :=
  requirements.find? (!·.met)

/-- The end of a check of all requirements in their order. -/
def judge (requirements : List Requirement) : Except Fault Unit :=
  match firstUnmet requirements with
  | some requirement => .error requirement.fault
  | none => .ok ()

theorem judge_cons (requirement : Requirement) : judge (requirement :: requirements) =
    if requirement.met then judge requirements else .error requirement.fault := by
  unfold judge firstUnmet
  rw [List.find?_cons]
  cases requirement.met <;> rfl

theorem judge_append : judge (requirements ++ others) =
    judge requirements >>= fun _ => judge others := by
  induction requirements with
  | nil => rfl
  | cons requirement rest ih =>
    rw [List.cons_append, judge_cons, judge_cons, ih]
    cases requirement.met <;> rfl

theorem judge_ok_iff : judge requirements = .ok () ↔ ∀ requirement ∈ requirements,
    requirement.met = true := by
  unfold judge
  cases found : firstUnmet requirements with
  | none =>
    rw [firstUnmet, List.find?_eq_none] at found
    simpa using found
  | some requirement =>
    have member := List.mem_of_find?_eq_some found
    have unmet := List.find?_some found
    simp only [reduceCtorEq, false_iff, not_forall]
    refine ⟨requirement, member, ?_⟩
    intro met
    rw [met] at unmet
    contradiction

theorem judge_error_iff : judge requirements = .error fault ↔
    ∃ requirement, firstUnmet requirements = some requirement ∧ requirement.fault = fault := by
  cases found : firstUnmet requirements <;> simp [judge, found]

end Requirement

namespace Verdict
open Requirement (judge judge_append judge_cons)
variable {α β : Type} {requirements others : List Requirement}

/-- The verdict fails exactly as a check of the requirements does. -/
def Demands (verdict : Verdict α) (requirements : List Requirement) : Prop :=
  verdict.result.map (fun _ => ()) = judge requirements

theorem Demands.bind {verdict : Verdict α} {next : α → Verdict β}
    (first : verdict.Demands requirements)
    (rest : ∀ value, verdict.result = .ok value → (next value).Demands others) :
    (verdict >>= next).Demands (requirements ++ others) := by
  unfold Demands at first ⊢
  rw [judge_append, ← first, result_bind]
  cases ended : verdict.result with
  | error fault => rfl
  | ok value => exact rest value ended

theorem demands_nil {verdict : Verdict α} {value : α} (ended : verdict.result = .ok value) :
    verdict.Demands [] := by
  rw [Demands, ended]
  rfl

theorem demands_one {verdict : Verdict α} {requirement : Requirement}
    (judged : verdict.result.map (fun _ => ()) =
      if requirement.met then .ok () else .error requirement.fault) :
    verdict.Demands [requirement] := by
  rw [Demands, judged, judge_cons]
  cases requirement.met <;> rfl

theorem demands_forM {body : α → Verdict PUnit} {need : α → Requirement}
    (each : ∀ item, (body item).Demands [need item]) (items : List α) :
    (items.forM body).Demands (items.map need) := by
  induction items with
  | nil => exact demands_nil rfl
  | cons item rest ih => exact (each item).bind fun _ _ => ih

end Verdict

namespace Call
variable {σ α β : Type} {requirements others : List Requirement} {state : σ} {post : σ → Prop}

/-- The call fails exactly as a check of the requirements does, and else leaves a
state of which more is known. -/
structure Demands (call : Call σ α) (state : σ) (requirements : List Requirement)
    (post : σ → Prop) : Prop where
  judged : (call state).toVerdict.Demands requirements
  done : ∀ value, (call state).result = .ok value → post (call state).state

namespace Demands

theorem bind {call : Call σ α} {next : α → Call σ β} {last : σ → Prop}
    (first : call.Demands state requirements post)
    (rest : ∀ value middle, post middle → (next value).Demands middle others last) :
    (call >>= next).Demands state (requirements ++ others) last := by
  obtain ⟨judged, done⟩ := first
  rw [Verdict.Demands] at judged
  cases ended : (call state).result with
  | error fault =>
    obtain ⟨failed, -⟩ := bind_error next ended
    rw [ended] at judged
    constructor
    · rw [Verdict.Demands, failed, Requirement.judge_append, ← judged]
      rfl
    · intro value answered
      rw [failed] at answered
      contradiction
  | ok value =>
    obtain ⟨result, moves⟩ := bind_ok next ended
    obtain ⟨judgedNext, doneNext⟩ := rest value _ (done value ended)
    rw [Verdict.Demands] at judgedNext
    rw [ended] at judged
    constructor
    · rw [Verdict.Demands, result, Requirement.judge_append, ← judged, judgedNext]
      rfl
    · intro answer answered
      rw [result] at answered
      rw [moves]
      exact doneNext answer answered

theorem ask {question : σ → Verdict α} (judged : (question state).Demands requirements) :
    (Call.ask question).Demands state requirements (· = state) where
  judged := judged
  done _ _ := rfl

theorem completed {call : Call σ Unit} (demands : call.Demands state requirements post) :
    (call.completed state).Demands requirements ∧
      ∀ after, (call.completed state).result = .ok after → post after := by
  obtain ⟨judged, done⟩ := demands
  constructor
  · rw [Verdict.Demands] at judged ⊢
    rw [← judged, Call.completed]
    cases (call state).result <;> simp only [Except.map]
  · intro after completed
    obtain ⟨ended, left⟩ := completed_ok_iff.mp completed
    exact left ▸ done () ended

end Demands

end Call

end SystemOnChip
