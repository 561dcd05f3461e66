import SystemOnChip.Proofs.Call.Transcript

/-! Calls that are refused behind a part that has succeeded. Such a call has changed the
state if that part has left a mark on it that no later part takes away; parts that change
nothing are passed over. -/
namespace SystemOnChip.Call
variable {σ τ α β : Type}

/-- The call fails on this state. -/
def Fails (call : Call σ α) (state : σ) : Prop := ∃ fault, (call state).result = .error fault

/-- What holds before the call holds after it, also where it fails. -/
def Keeps (call : Call σ α) (property : σ → Prop) : Prop :=
  ∀ state, property state → property (call state).state

/-- The call succeeds on this state only where the property does not hold yet, and
establishes it. -/
def Marks (call : Call σ α) (state : σ) (property : σ → Prop) : Prop :=
  ∀ value, (call state).result = .ok value → ¬ property state ∧ property (call state).state

/-- Where the call fails on this state, the state stays as it is under the condition and
under no other. -/
def SparesIf (call : Call σ α) (state : σ) (condition : Prop) : Prop :=
  call.Fails state → ((call state).state = state ↔ condition)

variable {call : Call σ α} {next : α → Call σ β} {state : σ} {property : σ → Prop}

theorem Fails.not_ok (fails : call.Fails state) {value : α} :
    (call state).result ≠ .ok value := by
  obtain ⟨fault, failed⟩ := fails
  rw [failed]
  exact fun same => nomatch same

@[simp] theorem fails_map {f : α → β} : (f <$> call).Fails state ↔ call.Fails state := by
  cases ended : (call state).result with
  | error fault => exact iff_of_true ⟨fault, (bind_error _ ended).1⟩ ⟨fault, ended⟩
  | ok value =>
    have succeeded : ((f <$> call) state).result = .ok (f value) := (bind_ok _ ended).1
    exact iff_of_false (fun fails => fails.not_ok succeeded) fun fails => fails.not_ok ended

theorem Marks.map {f : α → β} (marks : call.Marks state property) :
    (f <$> call).Marks state property := by
  intro _ ended
  obtain ⟨value, succeeded, -⟩ := bind_ok_iff.mp ended
  rw [state_map]
  exact marks value succeeded

namespace Keeps

theorem of_reads (reads : call.Reads) : call.Keeps property := by
  intro state holds
  rwa [reads]

theorem update {change : σ → σ} (stays : ∀ state, property state → property (change state)) :
    (Call.update change).Keeps property := stays

theorem bind (first : call.Keeps property) (rest : ∀ value, (next value).Keeps property) :
    (call >>= next).Keeps property := by
  intro state holds
  cases ended : (call state).result with
  | error fault => exact (bind_error next ended).2 ▸ first state holds
  | ok value => exact (bind_ok next ended).2 ▸ rest value _ (first state holds)

theorem map {f : α → β} (keeps : call.Keeps property) : (f <$> call).Keeps property := by
  intro state holds
  rw [state_map]
  exact keeps state holds

theorem forM {ι : Type} {items : List ι} {body : ι → Call σ PUnit}
    (each : ∀ item, (body item).Keeps property) : (items.forM body).Keeps property := by
  induction items with
  | nil => exact fun _ holds => holds
  | cons item rest ih => exact bind (each item) fun _ => ih

/-- A call on a part keeps what does not depend on that part. -/
theorem on {part : σ → τ} {put : τ → σ → σ} {inner : Call τ α}
    (other : ∀ state piece, property state → property (put piece state)) :
    (inner.on part put).Keeps property := fun state holds => other state _ holds

end Keeps

namespace SparesIf
variable {condition other : Prop}

theorem congr (spares : call.SparesIf state condition) (same : condition ↔ other) :
    call.SparesIf state other := fun failed => (spares failed).trans same

theorem of_atomic (atomic : call.Atomic) : call.SparesIf state True := by
  rintro ⟨fault, failed⟩
  exact iff_true_intro (atomic state fault failed)

theorem map {f : α → β} (spares : call.SparesIf state condition) :
    (f <$> call).SparesIf state condition := by
  intro fails
  rw [state_map]
  exact spares (fails_map.mp fails)

/-- Behind a part that leaves a mark, nothing is refused without a trace. -/
theorem bind_marks (atomic : call.Atomic) (marks : call.Marks state property)
    (keeps : ∀ value, (next value).Keeps property) :
    (call >>= next).SparesIf state (call.Fails state) := by
  intro _
  cases ended : (call state).result with
  | error fault =>
    rw [(bind_error next ended).2]
    exact iff_of_true (atomic state fault ended) ⟨fault, ended⟩
  | ok value =>
    obtain ⟨absent, present⟩ := marks value ended
    refine iff_of_false (fun same => absent ?_) fun fails => fails.not_ok ended
    rw [← same, (bind_ok next ended).2]
    exact keeps value _ present

theorem bind_map_marks {γ : Type} {f : α → γ} {next : γ → Call σ β} (atomic : call.Atomic)
    (marks : call.Marks state property) (keeps : ∀ value, (next value).Keeps property) :
    (f <$> call >>= next).SparesIf state (call.Fails state) :=
  .congr (bind_marks atomic.map marks.map keeps) fails_map

/-- A loop that is not empty starts with its first pass. -/
theorem bind_forM_marks {ι : Type} {item : ι} {rest : List ι} {body : ι → Call σ PUnit}
    {next : PUnit → Call σ β} (atomic : (body item).Atomic)
    (marks : (body item).Marks state property) (passes : ∀ other, (body other).Keeps property)
    (keeps : ∀ value, (next value).Keeps property) :
    ((item :: rest).forM body >>= next).SparesIf state ((body item).Fails state) := by
  have unrolled : (item :: rest).forM body >>= next =
      body item >>= fun _ => rest.forM body >>= next := bind_assoc _ _ _
  rw [unrolled]
  exact bind_marks atomic marks fun _ => .bind (.forM passes) keeps

/-- A part that changes nothing is passed over. -/
theorem bind_idle (idle : (call state).state = state)
    (rest : ∀ value, (call state).result = .ok value → (next value).SparesIf state condition) :
    (call >>= next).SparesIf state (call.Fails state ∨ condition) := by
  rintro ⟨fault, failed⟩
  cases ended : (call state).result with
  | error other =>
    rw [(bind_error next ended).2]
    exact iff_of_true idle (.inl ⟨other, ended⟩)
  | ok value =>
    obtain ⟨result, moves⟩ := bind_ok next ended
    rw [idle] at result moves
    rw [moves, or_iff_right fun fails : call.Fails state => fails.not_ok ended]
    exact rest value ended ⟨fault, result ▸ failed⟩

theorem bind_current {next : σ → Call σ β} (rest : (next state).SparesIf state condition) :
    (Call.current >>= next).SparesIf state condition := by
  rintro ⟨fault, failed⟩
  have current : (Call.current state).result = .ok state := rfl
  obtain ⟨result, moves⟩ := bind_ok next current
  rw [moves]
  exact rest ⟨fault, result ▸ failed⟩

end SparesIf

end SystemOnChip.Call
