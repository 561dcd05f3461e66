import Mathlib.Data.List.Forall2
import Mathlib.Logic.Relation
import SystemOnChip.Call

/-! How verdicts and calls end. A verdict in several parts succeeds when every
part does, and fails with the fault of the first part that fails. A call passes
through states related by steps, also where it fails, and a call that succeeds
ends in a state of which more is known. -/
namespace SystemOnChip

namespace Verdict
variable {α β : Type}

@[simp] theorem result_pure (value : α) : (pure value : Verdict α).result = .ok value := rfl

@[simp] theorem result_fail (fault : Fault) : (fail fault : Verdict α).result = .error fault := rfl

@[simp] theorem result_failWith (message : String) (fault : Fault) :
    (failWith message fault : Verdict α).result = .error fault := rfl

@[simp] theorem result_info (message : String) : (info message).result = .ok () := rfl

/-- A dump of the tables changes the log only. -/
@[simp] theorem result_orDump (verdict : Verdict α) (dump : String) :
    (verdict.orDump dump).result = verdict.result := by
  unfold orDump
  split <;> simp only [*]

theorem result_bind (verdict : Verdict α) (next : α → Verdict β) :
    (verdict >>= next).result = verdict.result >>= fun value => (next value).result := by
  change (bind verdict next).result = _
  unfold bind
  split <;> simp only [*] <;> rfl

@[simp] theorem bind_ok_iff {verdict : Verdict α} {next : α → Verdict β} {answer : β} :
    (verdict >>= next).result = .ok answer ↔
      ∃ value, verdict.result = .ok value ∧ (next value).result = .ok answer := by
  rw [result_bind]
  cases verdict.result <;> simp [Bind.bind, Except.bind]

@[simp] theorem bind_error_iff {verdict : Verdict α} {next : α → Verdict β} {fault : Fault} :
    (verdict >>= next).result = .error fault ↔ verdict.result = .error fault ∨
      ∃ value, verdict.result = .ok value ∧ (next value).result = .error fault := by
  rw [result_bind]
  cases verdict.result <;> simp [Bind.bind, Except.bind]

instance : LawfulMonad Verdict := LawfulMonad.mk' Verdict
  (fun verdict => by
    obtain ⟨result, log⟩ := verdict
    cases result <;> simp [Functor.map, bind])
  (fun value next => by simp [Bind.bind, bind, pure])
  (fun verdict next last => by
    simp only [Bind.bind, bind]
    grind)

@[simp] theorem map_ok_iff {verdict : Verdict α} {f : α → β} {answer : β} :
    (f <$> verdict).result = .ok answer ↔
      ∃ value, verdict.result = .ok value ∧ f value = answer := by
  rw [← bind_pure_comp, bind_ok_iff]
  simp

@[simp] theorem map_error_iff {verdict : Verdict α} {f : α → β} {fault : Fault} :
    (f <$> verdict).result = .error fault ↔ verdict.result = .error fault := by
  rw [← bind_pure_comp, bind_error_iff]
  simp

@[simp] theorem require_ok_iff {condition : Bool} {fault : Fault} {value : Unit} :
    (require condition fault).result = .ok value ↔ condition = true := by
  cases condition <;> simp [require]

@[simp] theorem require_error_iff {condition : Bool} {fault other : Fault} :
    (require condition fault).result = .error other ↔ condition = false ∧ fault = other := by
  cases condition <;> simp [require]

/-- A list is judged in its order, each entry by its own verdict. -/
theorem mapM_ok_iff {judge : α → Verdict β} {items : List α} {answers : List β} :
    (items.mapM judge).result = .ok answers ↔
      List.Forall₂ (fun item answer => (judge item).result = .ok answer) items answers := by
  induction items generalizing answers with
  | nil => cases answers <;> simp
  | cons item rest ih =>
    simp only [List.mapM_cons, bind_ok_iff, result_pure, Except.ok.injEq, ih]
    constructor
    · rintro ⟨answer, head, others, tail, rfl⟩
      exact .cons head tail
    · rintro (_ | ⟨head, tail⟩)
      exact ⟨_, head, _, tail, rfl⟩

/-- A list is answered as a whole if each of its entries is, and each answer is
related to its entry. -/
theorem mapM_ok {judge : α → Verdict β} {related : α → β → Prop} {items : List α}
    (each : ∀ item ∈ items, ∃ answer, (judge item).result = .ok answer ∧ related item answer) :
    ∃ answers, (items.mapM judge).result = .ok answers ∧ List.Forall₂ related items answers := by
  induction items with
  | nil => exact ⟨[], mapM_ok_iff.mpr .nil, .nil⟩
  | cons item rest ih =>
    obtain ⟨answer, judged, holds⟩ := each item List.mem_cons_self
    obtain ⟨answers, answered, hold⟩ := ih fun other member =>
      each other (List.mem_cons_of_mem _ member)
    exact ⟨answer :: answers, mapM_ok_iff.mpr (.cons judged (mapM_ok_iff.mp answered)),
      .cons holds hold⟩

end Verdict

namespace Call
open Relation (ReflTransGen)
variable {σ τ α β : Type}

theorem bind_pure_id (call : Call σ α) : bind call (fun value => pure value) = call := by
  funext state
  simp only [bind]
  generalize call state = outcome
  obtain ⟨⟨result, log⟩, after⟩ := outcome
  cases result <;> simp [pure]

instance : LawfulMonad (Call σ) := LawfulMonad.mk' (Call σ) bind_pure_id
  (fun _ _ => rfl)
  (fun call next last => by
    funext state
    change bind (bind call next) last state = bind call (fun value => bind (next value) last) state
    simp only [bind]
    grind)

theorem bind_ok {call : Call σ α} {state : σ} {value : α} (next : α → Call σ β)
    (ended : (call state).result = .ok value) :
    ((call >>= next) state).result = (next value (call state).state).result ∧
      ((call >>= next) state).state = (next value (call state).state).state := by
  change (bind call next state).result = _ ∧ (bind call next state).state = _
  simp only [bind, ended, and_self]

theorem bind_error {call : Call σ α} {state : σ} {fault : Fault} (next : α → Call σ β)
    (ended : (call state).result = .error fault) :
    ((call >>= next) state).result = .error fault ∧
      ((call >>= next) state).state = (call state).state := by
  change (bind call next state).result = _ ∧ (bind call next state).state = _
  simp only [bind, ended, and_self]

theorem bind_ok_iff {call : Call σ α} {next : α → Call σ β} {state : σ} {answer : β} :
    ((call >>= next) state).result = .ok answer ↔ ∃ value,
      (call state).result = .ok value ∧ (next value (call state).state).result = .ok answer := by
  cases ended : (call state).result with
  | error fault => simp [(bind_error next ended).1]
  | ok value => simp [(bind_ok next ended).1]

theorem bind_error_iff {call : Call σ α} {next : α → Call σ β} {state : σ} {fault : Fault} :
    ((call >>= next) state).result = .error fault ↔ (call state).result = .error fault ∨
      ∃ value, (call state).result = .ok value ∧
        (next value (call state).state).result = .error fault := by
  cases ended : (call state).result with
  | error other => simp [(bind_error next ended).1]
  | ok value => simp [(bind_ok next ended).1]

theorem map_ok_iff {call : Call σ α} {f : α → β} {state : σ} {answer : β} :
    ((f <$> call) state).result = .ok answer ↔
      ∃ value, (call state).result = .ok value ∧ f value = answer := by
  refine bind_ok_iff.trans (exists_congr fun value => and_congr_right fun _ => ?_)
  exact ⟨fun same => Except.ok.inj same, fun same => congrArg Except.ok same⟩

theorem map_error_iff {call : Call σ α} {f : α → β} {state : σ} {fault : Fault} :
    ((f <$> call) state).result = .error fault ↔ (call state).result = .error fault := by
  refine bind_error_iff.trans (or_iff_left ?_)
  rintro ⟨value, -, failed⟩
  contradiction

@[simp] theorem result_ask {question : σ → Verdict α} {state : σ} :
    (ask question state).result = (question state).result := rfl

theorem bind_ask_error_iff {question : σ → Verdict α} {next : α → Call σ β} {state : σ}
    {fault : Fault} : ((ask question >>= next) state).result = .error fault ↔
      (question state).result = .error fault ∨
        ∃ value, (question state).result = .ok value ∧ (next value state).result = .error fault :=
  bind_error_iff

theorem bind_current_error_iff {next : σ → Call σ β} {state : σ} {fault : Fault} :
    ((current >>= next) state).result = .error fault ↔
      (next state state).result = .error fault := by
  rw [bind_error_iff]
  simp [current]

theorem discard_ok_iff {call : Call σ α} {state : σ} :
    (discard call state).result = .ok () ↔ ∃ value, (call state).result = .ok value :=
  bind_ok_iff.trans (exists_congr fun _ => and_iff_left rfl)

@[simp] theorem state_map {call : Call σ α} {f : α → β} {state : σ} :
    ((f <$> call) state).state = (call state).state := by
  cases ended : (call state).result with
  | error fault => exact (bind_error _ ended).2
  | ok value => exact (bind_ok _ ended).2

theorem result_map {call : Call σ α} {f : α → β} {state : σ} :
    ((f <$> call) state).result = (call state).result.map f := by
  cases ended : (call state).result with
  | error fault => exact (bind_error _ ended).1
  | ok value => exact (bind_ok _ ended).1

/-- What always goes on to answer the same value does not change how a call ends. -/
theorem result_bind_of_answers {call : Call σ α} {next : α → Call σ α} {state : σ}
    (answers : ∀ value middle, (next value middle).result = .ok value) :
    ((call >>= next) state).result = (call state).result := by
  cases ended : (call state).result with
  | error fault => exact (bind_error next ended).1
  | ok value => exact (bind_ok next ended).1.trans (answers value _)

theorem completed_ok_iff {call : Call σ Unit} {initial last : σ} :
    (call.completed initial).result = .ok last ↔
      (call initial).result = .ok () ∧ (call initial).state = last := by
  cases ended : (call initial).result <;> simp [completed, ended, Except.map]

/-- A property that each step keeps holds at the end of a path of steps. -/
theorem keeps_of_path {step : σ → σ → Prop} {property : σ → Prop} {first last : σ}
    (each : ∀ before after, step before after → property before → property after)
    (path : ReflTransGen step first last) (holds : property first) : property last := by
  induction path with
  | refl => exact holds
  | tail _ moved ih => exact each _ _ moved ih

/-- Where each item of a list moves by steps, the whole list does. -/
theorem path_of_foldl {step : σ → σ → Prop} {move : σ → α → σ} {state : σ}
    (each : ∀ state item, ReflTransGen step state (move state item)) (items : List α) :
    ReflTransGen step state (items.foldl move state) := by
  induction items generalizing state with
  | nil => exact .refl
  | cons item rest ih => exact (each state item).trans ih

/-- From `state` on, the call moves by steps of a relation, whether it fails or
not, and a success leaves a value and a state that satisfy `post`. -/
structure Runs (step : σ → σ → Prop) (call : Call σ α) (state : σ) (post : α → σ → Prop) :
    Prop where
  path : ReflTransGen step state (call state).state
  done : ∀ value, (call state).result = .ok value → post value (call state).state

namespace Runs
variable {step : σ → σ → Prop} {state : σ} {post : α → σ → Prop}

theorem pure {value : α} (holds : post value state) :
    (Pure.pure value : Call σ α).Runs step state post where
  path := .refl
  done := by rintro _ ⟨⟩; exact holds

theorem bind {call : Call σ α} {next : α → Call σ β} {last : β → σ → Prop}
    (first : call.Runs step state post)
    (rest : ∀ value middle, post value middle → (next value).Runs step middle last) :
    (call >>= next).Runs step state last := by
  cases ended : (call state).result with
  | error fault =>
    obtain ⟨failed, stays⟩ := bind_error next ended
    exact ⟨stays ▸ first.path, fun value done => by rw [failed] at done; contradiction⟩
  | ok value =>
    obtain ⟨result, moves⟩ := bind_ok next ended
    obtain ⟨path, done⟩ := rest value _ (first.done value ended)
    refine ⟨moves ▸ first.path.trans path, fun answer answered => ?_⟩
    rw [result] at answered
    exact moves ▸ done answer answered

theorem weaken {call : Call σ α} {last : α → σ → Prop} (runs : call.Runs step state post)
    (follows : ∀ value after, post value after → last value after) :
    call.Runs step state last :=
  ⟨runs.path, fun value ended => follows value _ (runs.done value ended)⟩

/-- The state that a success leaves is the one that the call leaves. -/
theorem ends {call : Call σ α} (runs : call.Runs step state post) :
    call.Runs step state fun value after => post value after ∧ after = (call state).state :=
  ⟨runs.path, fun value ended => ⟨runs.done value ended, rfl⟩⟩

/-- Nothing is known of the end, but the steps are. -/
theorem forget {call : Call σ α} (runs : call.Runs step state post) :
    call.Runs step state fun _ _ => True :=
  runs.weaken fun _ _ _ => trivial

theorem map {call : Call σ α} {f : α → β} {last : β → σ → Prop} (runs : call.Runs step state post)
    (follows : ∀ value after, post value after → last (f value) after) :
    (f <$> call).Runs step state last :=
  bind runs fun value after holds => pure (follows value after holds)

theorem discard {call : Call σ α} (runs : call.Runs step state post) :
    (Functor.discard call).Runs step state fun _ after => ∃ value, post value after :=
  map runs fun value _ holds => ⟨value, holds⟩

theorem ignore {call : Call σ α} {kept : σ → Prop} (runs : call.Runs step state fun _ => kept) :
    (Functor.discard call).Runs step state fun _ => kept :=
  map runs fun _ _ holds => holds

theorem current : (Call.current : Call σ σ).Runs step state fun value after =>
    value = state ∧ after = state where
  path := .refl
  done := by rintro _ ⟨⟩; exact ⟨rfl, rfl⟩

theorem info {message : String} :
    (Call.info message : Call σ Unit).Runs step state fun _ after => after = state where
  path := .refl
  done := fun _ _ => rfl

theorem ask {question : σ → Verdict α} : (Call.ask question).Runs step state fun value after =>
    (question state).result = .ok value ∧ after = state where
  path := .refl
  done := fun _ ended => ⟨ended, rfl⟩

theorem update {change : σ → σ} (moves : step state (change state)) :
    (Call.update change).Runs step state fun _ after => after = change state where
  path := .single moves
  done := fun _ _ => rfl

section Binds
variable {last : β → σ → Prop}

theorem bind_current {next : σ → Call σ β} (rest : (next state).Runs step state last) :
    (Call.current >>= next).Runs step state last := by
  refine bind current ?_
  rintro _ _ ⟨rfl, rfl⟩
  exact rest

theorem bind_info {message : String} {next : Unit → Call σ β}
    (rest : (next ()).Runs step state last) : (Call.info message >>= next).Runs step state last := by
  refine bind info ?_
  rintro _ _ rfl
  exact rest

theorem bind_ask {question : σ → Verdict α} {next : α → Call σ β}
    (rest : ∀ value, (question state).result = .ok value → (next value).Runs step state last) :
    (Call.ask question >>= next).Runs step state last := by
  refine bind ask ?_
  rintro value _ ⟨asked, rfl⟩
  exact rest value asked

theorem bind_update {change : σ → σ} {next : Unit → Call σ β} (moves : step state (change state))
    (rest : (next ()).Runs step (change state) last) :
    (Call.update change >>= next).Runs step state last := by
  refine bind (update moves) ?_
  rintro _ _ rfl
  exact rest

end Binds

/-- A call on a part moves the whole as it moves the part. -/
theorem on {part : σ → τ} {put : τ → σ → σ} {within : τ → τ → Prop} {call : Call τ α}
    {last : α → τ → Prop} (runs : call.Runs within (part state) last)
    (same : put (part state) state = state)
    (lift : ∀ before after, within before after → step (put before state) (put after state)) :
    (call.on part put).Runs step state fun value after =>
      ∃ middle, last value middle ∧ after = put middle state where
  path := by
    have lifted : ReflTransGen step (put (part state) state) _ :=
      runs.path.lift (put · state) lift
    rw [same] at lifted
    exact lifted
  done := fun value ended => ⟨_, runs.done value ended, rfl⟩

/-- What every pass of a loop keeps holds at its end. -/
theorem forM {items : List α} {body : α → Call σ PUnit} {keeps : σ → Prop} (initial : keeps state)
    (each : ∀ item ∈ items, ∀ middle, keeps middle →
      (body item).Runs step middle fun _ => keeps) :
    (items.forM body).Runs step state fun _ => keeps := by
  induction items generalizing state with
  | nil => exact pure initial
  | cons item rest ih =>
    refine bind (each item List.mem_cons_self state initial) fun _ middle holds => ?_
    exact ih holds fun other member => each other (List.mem_cons_of_mem _ member)

/-- What holds of the items that a loop has gone through, pass by pass, holds of all
items at its end. -/
theorem forM_upTo {items : List α} {body : α → Call σ PUnit} (keeps : List α → σ → Prop)
    (initial : keeps [] state) (each : ∀ done item middle, keeps done middle →
      (body item).Runs step middle fun _ => keeps (done ++ [item])) :
    (items.forM body).Runs step state fun _ => keeps items := by
  have onwards (items done : List α) (state : σ) (holds : keeps done state) :
      (items.forM body).Runs step state fun _ => keeps (done ++ items) := by
    induction items generalizing done state with
    | nil => exact pure (by rwa [List.append_nil])
    | cons item rest ih =>
      refine bind (each done item state holds) fun _ middle holds => ?_
      have others := ih (done ++ [item]) middle holds
      rwa [List.append_assoc, List.singleton_append] at others
  exact onwards items [] state initial

/-- A property that steps keep survives the call. -/
theorem keeps {call : Call σ α} {property : σ → Prop} (runs : call.Runs step state post)
    (each : ∀ before after, step before after → property before → property after)
    (holds : property state) : property (call state).state :=
  keeps_of_path each runs.path holds

/-- What each pass of a loop establishes, and no step undoes, holds of all items
at its end. -/
theorem forM_each {items : List α} {body : α → Call σ PUnit} {marks : α → σ → Prop}
    (stays : ∀ item before after, step before after → marks item before → marks item after)
    (each : ∀ item ∈ items, ∀ middle, (body item).Runs step middle fun _ => marks item) :
    (items.forM body).Runs step state fun _ after => ∀ item ∈ items, marks item after := by
  induction items generalizing state with
  | nil => exact pure fun _ member => nomatch member
  | cons item rest ih =>
    refine bind (each item List.mem_cons_self state) fun _ middle marked => ?_
    have later : (rest.forM body).Runs step middle fun _ after => ∀ item ∈ rest, marks item after :=
      ih fun other member => each other (List.mem_cons_of_mem _ member)
    refine ⟨later.path, fun value ended other member => ?_⟩
    rcases List.mem_cons.mp member with rfl | member
    · exact later.keeps (stays other) marked
    · exact later.done value ended other member

end Runs

end Call

end SystemOnChip
