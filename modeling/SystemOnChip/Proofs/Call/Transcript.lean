import SystemOnChip.Proofs.Call

/-! Runs of calls, failed ones included, each on the state that the one before left.
A call that changes nothing may be put into a run or left out of it without a trace. -/
namespace SystemOnChip.Call
variable {σ τ ι α β : Type}

/-- The state that a list of calls leaves. -/
def leaves (perform : ι → Call σ α) (state : σ) (items : List ι) : σ :=
  items.foldl (fun state item => (perform item state).state) state

/-- The calls of a run, each with its answer and its events. -/
def transcript (perform : ι → Call σ α) (state : σ) : List ι → List (ι × Verdict α)
  | [] => []
  | item :: rest => (item, (perform item state).toVerdict) ::
      transcript perform (perform item state).state rest

/-- With one more call at a point of a run, all others answer as they do without it, and
the run ends as it does without it. -/
def Unnoticed (perform : ι → Call σ α) (state : σ) (before : List ι) (item : ι)
    (later : List ι) : Prop :=
  (transcript perform state (before ++ item :: later)).eraseIdx before.length =
      transcript perform state (before ++ later) ∧
    leaves perform state (before ++ item :: later) = leaves perform state (before ++ later)

/-- The second list is the first one without some of the entries that may be left out. -/
inductive Thins (droppable : β → Prop) : List β → List β → Prop where
  | nil : Thins droppable [] []
  | keep {entry entries kept} (rest : Thins droppable entries kept) :
      Thins droppable (entry :: entries) (entry :: kept)
  | drop {entry entries kept} (may : droppable entry) (rest : Thins droppable entries kept) :
      Thins droppable (entry :: entries) kept

/-- A call that fails leaves the state as it found it. -/
def Atomic (call : Call σ α) : Prop :=
  ∀ state fault, (call state).result = .error fault → (call state).state = state

/-- Calls of one sort are atomic, and of those that fail any may be dropped from a run:
the others answer as before, and the run ends as before. -/
structure Traceless (perform : ι → Call σ α) (sort : ι → Prop) : Prop where
  atomic : ∀ item, sort item → (perform item).Atomic
  dropped : ∀ state items kept,
    Thins (fun entry => sort entry.1 ∧ ∃ fault, entry.2.result = .error fault)
      (transcript perform state items) kept →
    transcript perform state (kept.map (·.1)) = kept ∧
      leaves perform state (kept.map (·.1)) = leaves perform state items

section Runs
variable {perform : ι → Call σ α} {state : σ} {item : ι} {before later : List ι}

theorem leaves_append : leaves perform state (before ++ later) =
    leaves perform (leaves perform state before) later :=
  List.foldl_append

theorem transcript_append : transcript perform state (before ++ later) =
    transcript perform state before ++ transcript perform (leaves perform state before) later := by
  induction before generalizing state with
  | nil => rfl
  | cons first rest ih =>
    rw [List.cons_append, transcript, transcript, ih]
    rfl

theorem length_transcript : (transcript perform state before).length = before.length := by
  induction before generalizing state with
  | nil => rfl
  | cons first rest ih => rw [transcript, List.length_cons, List.length_cons, ih]

/-- What each call keeps true of the calls so far is true of all of them in the end. -/
theorem holds_leaves (holds : List ι → σ → Prop) (initial : holds [] state)
    (each : ∀ before item state, holds before state →
      holds (before ++ [item]) (perform item state).state) (items : List ι) :
    holds items (leaves perform state items) := by
  have onwards (later before : List ι) (state : σ) (reached : holds before state) :
      holds (before ++ later) (leaves perform state later) := by
    induction later generalizing before state with
    | nil => rwa [List.append_nil]
    | cons item rest ih =>
      have moved := ih _ _ (each before item state reached)
      rwa [List.append_assoc] at moved
  exact onwards items [] state initial

theorem unnoticed_of_same (same : (perform item (leaves perform state before)).state =
    leaves perform state before) : Unnoticed perform state before item later := by
  constructor
  · rw [transcript_append, transcript_append, ← length_transcript,
      List.eraseIdx_append_of_length_le (Nat.le_refl _), Nat.sub_self, transcript,
      List.eraseIdx_cons_zero, same]
  · rw [leaves_append, leaves_append]
    exact congrArg (leaves perform · later) same

theorem traceless_of_atomic {sort : ι → Prop} (atomic : ∀ item, sort item → (perform item).Atomic) :
    Traceless perform sort where
  atomic := atomic
  dropped state items kept thins := by
    -- on the list of calls, as the transcript of the rest starts from another state
    induction items generalizing state kept with
    | nil =>
      cases thins
      exact ⟨rfl, rfl⟩
    | cons item rest ih =>
      cases thins with
      | keep thins =>
        obtain ⟨answers, ends⟩ := ih _ _ thins
        exact ⟨congrArg _ answers, ends⟩
      | drop may thins =>
        obtain ⟨sorted, fault, failed⟩ := may
        have same := atomic item sorted state fault failed
        rw [same] at thins
        obtain ⟨answers, ends⟩ := ih _ _ thins
        refine ⟨answers, ends.trans ?_⟩
        exact (congrArg (leaves perform · rest) same).symm

end Runs

/-- The call leaves every state as it is. -/
def Reads (call : Call σ α) : Prop := ∀ state, (call state).state = state

/-- The call fails on no state. -/
def Succeeds (call : Call σ α) : Prop := ∀ state, ∃ value, (call state).result = .ok value

theorem Reads.ask {question : σ → Verdict α} : (Call.ask question).Reads := fun _ => rfl

theorem Reads.current : (Call.current : Call σ σ).Reads := fun _ => rfl

namespace Succeeds

theorem pure {value : α} : (Pure.pure value : Call σ α).Succeeds := fun _ => ⟨value, rfl⟩

theorem info {message : String} : (Call.info message : Call σ Unit).Succeeds := fun _ => ⟨(), rfl⟩

theorem update {change : σ → σ} : (Call.update change).Succeeds := fun _ => ⟨(), rfl⟩

theorem ask {question : σ → Verdict α} (answers : ∀ state, ∃ value,
    (question state).result = .ok value) : (Call.ask question).Succeeds := answers

theorem bind {call : Call σ α} {next : α → Call σ β} (first : call.Succeeds)
    (rest : ∀ value, (next value).Succeeds) : (call >>= next).Succeeds := by
  intro state
  obtain ⟨value, ended⟩ := first state
  obtain ⟨answer, answered⟩ := rest value (call state).state
  exact ⟨answer, bind_ok_iff.mpr ⟨value, ended, answered⟩⟩

/-- What cannot fail does not change how the calls before it fail. -/
theorem bind_error_iff {call : Call σ α} {next : α → Call σ β} {state : σ} {fault : Fault}
    (rest : ∀ value, (next value).Succeeds) :
    ((call >>= next) state).result = .error fault ↔ (call state).result = .error fault := by
  rw [Call.bind_error_iff, or_iff_left]
  rintro ⟨value, -, failed⟩
  obtain ⟨answer, answered⟩ := rest value (call state).state
  rw [failed] at answered
  contradiction

end Succeeds

namespace Atomic

theorem of_succeeds {call : Call σ α} (succeeds : call.Succeeds) : call.Atomic := by
  intro state fault failed
  obtain ⟨value, ended⟩ := succeeds state
  rw [failed] at ended
  contradiction

/-- What runs behind a look at the state fails as if it ran alone. -/
theorem behind {call : Call σ α} {next : α → Call σ β} (reads : call.Reads)
    (rest : ∀ value, (next value).Atomic) : (call >>= next).Atomic := by
  intro state fault failed
  cases ended : (call state).result with
  | error other => exact (bind_error next ended).2.trans (reads state)
  | ok value =>
    obtain ⟨result, moves⟩ := bind_ok next ended
    rw [reads] at result moves
    rw [moves]
    exact rest value state fault (result ▸ failed)

/-- What cannot fail may follow an atomic call. -/
theorem before {call : Call σ α} {next : α → Call σ β} (first : call.Atomic)
    (rest : ∀ value, (next value).Succeeds) : (call >>= next).Atomic := by
  intro state fault failed
  have ended := (Succeeds.bind_error_iff rest).mp failed
  exact (bind_error next ended).2.trans (first state fault ended)

theorem map {call : Call σ α} {f : α → β} (atomic : call.Atomic) : (f <$> call).Atomic :=
  atomic.before fun _ => .pure

theorem on {part : σ → τ} {put : τ → σ → σ} {call : Call τ α} (atomic : call.Atomic)
    (same : ∀ state, put (part state) state = state) : (call.on part put).Atomic := by
  intro state fault failed
  have kept := atomic (part state) fault failed
  exact (congrArg (put · state) kept).trans (same state)

end Atomic

end SystemOnChip.Call
