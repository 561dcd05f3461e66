import SystemOnChip.Description
import SystemOnChip.Proofs.Soc.Extension

/-! How a description composes a system: its declarations are made one after the other,
and where all succeed each has had its effect, which those after it only extend. -/
namespace SystemOnChip.Description
open Soc (Declaration)

variable {description : Description} {soc : Soc}

theorem declareAll_runs (keeps : List Declaration → Soc → Prop) {declarations : List Declaration}
    (initial : keeps [] soc)
    (each : ∀ done declaration before, keeps done before →
      declaration.Effect before (before.leave declaration) →
      keeps (done ++ [declaration]) (before.leave declaration)) :
    (declareAll declarations).Runs Soc.Step soc fun _ => keeps declarations := by
  refine .forM_upTo keeps initial fun done declaration before holds => ?_
  refine .weaken (.discard (Soc.perform_runs declaration).ends) ?_
  rintro _ _ ⟨_, effect, rfl⟩
  exact each done declaration before holds effect

/-- What a new system has and each declaration keeps, the composed system has. -/
theorem keeps_of_compose (keeps : List Declaration → Soc → Prop)
    (composed : description.compose.result = .ok soc)
    (initial : ∀ created, (Soc.ofConfig description.config).result = .ok created →
      keeps [] created)
    (each : ∀ done declaration before, before.Reachable → keeps done before →
      declaration.Effect before (before.leave declaration) →
      keeps (done ++ [declaration]) (before.leave declaration)) :
    soc.Reachable ∧ keeps description.declarations soc := by
  obtain ⟨created, accepted, completed⟩ := Verdict.bind_ok_iff.mp composed
  obtain ⟨ended, rfl⟩ := Call.completed_ok_iff.mp completed
  have start : created.Reachable ∧ keeps [] created := ⟨.created accepted, initial created accepted⟩
  refine (declareAll_runs (fun done after => after.Reachable ∧ keeps done after) start ?_).done ()
    ended
  rintro done declaration before ⟨reached, holds⟩ effect
  exact ⟨reached.declared declaration, each done declaration before reached holds effect⟩

theorem reachable_of_compose (composed : description.compose.result = .ok soc) : soc.Reachable :=
  (keeps_of_compose (fun _ _ => True) composed (fun _ _ => trivial)
    fun _ _ _ _ _ _ => trivial).1

/-- A declaration has had its effect at some point, and the system extends what it
was then. -/
def Declared (declaration : Declaration) (soc : Soc) : Prop :=
  ∃ before after, declaration.Effect before after ∧ after.Extends soc

theorem declared_of_compose (composed : description.compose.result = .ok soc) :
    ∀ declaration ∈ description.declarations, Declared declaration soc := by
  refine (keeps_of_compose (fun done after => ∀ declaration ∈ done, Declared declaration after)
    composed ?_ ?_).2
  · intro created accepted declaration member
    contradiction
  · intro done declaration before reached holds effect other member
    rcases List.mem_append.mp member with earlier | last
    · obtain ⟨first, second, effect, grown⟩ := holds other earlier
      exact ⟨first, second, effect, grown.trans (reached.extends_leave declaration)⟩
    · rw [List.mem_singleton.mp last]
      exact ⟨before, _, effect, .refl⟩

end SystemOnChip.Description
