import SystemOnChip.Proofs.Bus.Settle
import SystemOnChip.Proofs.Call.Transcript

/-! How declarations on a bus fail. They leave no trace then, and a fault about a region comes
from the verdict on that region, also where the region is declared for a slave. -/
namespace SystemOnChip.Bus

variable {bus : Bus} {name first second : String} {given : Region} {interface : Interface}
  {fault : Fault}

theorem declareRegion_atomic : (declareRegion name given).Atomic := by
  refine .behind .ask fun stored => .of_succeeds (.bind .update fun _ => ?_)
  split
  · exact .bind .info fun _ => .pure
  · exact .bind .info fun _ => .pure

theorem adapt_succeeds : (Call.ask (·.adapt name interface) : Call Bus Attachment).Succeeds := by
  refine .ask fun bus => ?_
  rw [adapt]
  split
  · exact ⟨_, rfl⟩
  · exact ⟨_, rfl⟩

theorem attachMaster_atomic {wanted : Option String} : (attachMaster wanted interface).Atomic := by
  refine .behind .ask fun name => .of_succeeds (.bind adapt_succeeds fun attachment => ?_)
  exact .bind .update fun _ => .bind .info fun _ => .pure

/-- Nothing fails behind the region of a slave. -/
theorem attached_succeeds : (do
    let attachment ← Call.ask (·.adapt name interface)
    Call.update fun bus : Bus => { bus with slaves := bus.slaves ++ [(name, attachment)] }
    Call.info s!"{name} added as bus slave"
    return name : Call Bus String).Succeeds :=
  .bind adapt_succeeds fun _ => .bind .update fun _ => .bind .info fun _ => .pure

/-- The region of a slave is declared behind all other checks. -/
theorem attachSlave_atomic {wanted : Option String} {window : Option Region} :
    (attachSlave wanted interface window).Atomic := by
  refine .behind .ask fun name => ?_
  cases window with
  | none => exact .of_succeeds attached_succeeds
  | some region => exact .before (.map declareRegion_atomic) fun _ => attached_succeeds

theorem result_declareRegion :
    (declareRegion name given bus).result = (bus.settle name given).result := by
  rw [declareRegion, Call.result_bind_of_answers, Call.result_ask, Verdict.result_orDump]
  intro value middle
  dsimp only
  split <;> rfl

/-- A slave is refused for its name or, behind that, for its region. -/
theorem attachSlave_error_iff {wanted : Option String} {window : Option Region} :
    (attachSlave wanted interface window bus).result = .error fault ↔
      (bus.chooseSlave wanted window).result = .error fault ∨
      ∃ name, (bus.chooseSlave wanted window).result = .ok name ∧
        ∃ region, window = some region ∧ (bus.settle name region).result = .error fault := by
  rw [attachSlave, Call.bind_error_iff]
  simp only [Call.result_ask, Verdict.result_orDump]
  refine or_congr_right (exists_congr fun name => and_congr_right fun _ => ?_)
  cases window with
  | none =>
    obtain ⟨answer, attached⟩ := @attached_succeeds name interface bus
    exact iff_of_false (fun failed => nomatch attached.symm.trans failed) (by simp)
  | some region =>
    simp only [Option.some.injEq, exists_eq_left', ← result_declareRegion]
    refine (Call.Succeeds.bind_error_iff fun _ => attached_succeeds).trans ?_
    exact Call.Succeeds.bind_error_iff fun _ => .pure

theorem chooseSlave_not_overlap {wanted : Option String} {window : Option Region} :
    (bus.chooseSlave wanted window).result ≠ .error (.regionOverlap first second) := by
  cases window <;> simp [chooseSlave]

theorem requireDisjoint_error_iff {table : RegionTable} :
    (requireDisjoint table name given).result = .error (.regionOverlap first second) ↔
      findOverlap (table.entries ++ [(name, given)]) = some (first, second) := by
  rw [requireDisjoint, RegionTable.push]
  cases findOverlap (table.entries ++ [(name, given)]) <;> simp [Prod.ext_iff]

theorem overlap_of_requireLegal {origin : UInt64}
    (failed : (bus.requireLegal name origin given).result = .error (.regionOverlap first second)) :
    given.kind ≠ .linker ∧ bus.fits origin given.size = true ∧
      findOverlap ((bus.table given.kind).entries ++ [(name, given)]) = some (first, second) := by
  rw [← requireDisjoint_error_iff]
  unfold requireLegal at failed
  simp only [Verdict.bind_error_iff, Verdict.require_error_iff, Verdict.require_ok_iff,
    reduceCtorEq, and_false, false_or, exists_const] at failed
  obtain ⟨fits, failed⟩ := failed
  cases kind : given.kind with
  | linker =>
    rw [kind] at failed
    contradiction
  | io =>
    rw [kind] at fits failed
    exact ⟨by decide, fits, failed⟩
  | bus =>
    simp only [kind, Verdict.bind_error_iff, Verdict.require_error_iff, reduceCtorEq, and_false,
      false_or] at fits failed
    obtain ⟨-, -, failed⟩ := failed
    exact ⟨by decide, fits, failed⟩

/-- Only a placed region, aligned and within the address space, is reported for overlap. -/
theorem overlap_of_settle
    (failed : (bus.settle name given).result = .error (.regionOverlap first second)) :
    given.isAligned = true ∧ given.kind ≠ .linker ∧
      (∃ origin, given.origin = some origin ∧ bus.fits origin given.size = true) ∧
      findOverlap ((bus.table given.kind).entries ++ [(name, given)]) = some (first, second) := by
  simp only [settle, Verdict.bind_error_iff, Verdict.require_error_iff, Verdict.require_ok_iff,
    reduceCtorEq, and_false, false_or] at failed
  obtain ⟨-, -, -, aligned, failed⟩ := failed
  cases given_origin : given.origin with
  | none =>
    simp only [given_origin, Verdict.bind_error_iff, Verdict.require_error_iff,
      Verdict.result_pure, reduceCtorEq, and_false, false_or, or_false, exists_false] at failed
    obtain ⟨-, -, failed⟩ := failed
    have fault := Placement.fault_of_place failed
    contradiction
  | some origin =>
    simp only [given_origin, Verdict.bind_error_iff, Verdict.result_pure, reduceCtorEq, and_false,
      exists_const, or_false] at failed
    obtain ⟨kind, fits, found⟩ := overlap_of_requireLegal failed
    exact ⟨aligned, kind, ⟨origin, rfl, fits⟩, found⟩

end SystemOnChip.Bus
