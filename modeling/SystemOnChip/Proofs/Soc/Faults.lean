import SystemOnChip.Proofs.Bus.Failure
import SystemOnChip.Proofs.Constant
import SystemOnChip.Soc.Declaration

/-! What faults are about. Each part of a declaration is refused for reasons of its own, so
that the fault of a declaration in several parts tells which of them was refused. -/
namespace SystemOnChip

/-- The part of a composition that a fault is about. -/
inductive Subject where
  | configuration
  | region
  | slave
  | master
  | location
  | constant
  | component
  | requirement
deriving DecidableEq

/-- What a fault is about. -/
def Fault.subject : Fault → Subject
  | unsupported .. | unsupportedIrqCount .. => .configuration
  | duplicateRegionName .. | misalignedRegion .. | outsideAddressSpace .. | regionOverlap ..
  | uncachedOutsideWindow .. | unplacedRegion .. | insufficientAddressSpace ..
  | unalignedDecoderRegion .. => .region
  | duplicateSlaveName .. | missingNameOrRegion | unknownRegion .. | undecodedSlaveRegion .. =>
    .slave
  | duplicateMasterName .. | dataWidthMismatch .. => .master
  | duplicateLocationName .. | duplicateLocationNumber .. | locationOutOfRange ..
  | capacityExhausted .. | undefinedLocation .. => .location
  | duplicateConstant .. => .constant
  | duplicateComponent .. => .component
  | missingRequiredRegion .. | missingEventSource .. => .requirement

namespace Verdict
variable {α β : Type} {subjects : List Subject}

/-- If the verdict fails, its fault is about one of the subjects. -/
def FailsOver (verdict : Verdict α) (subjects : List Subject) : Prop :=
  ∀ fault, verdict.result = .error fault → fault.subject ∈ subjects

namespace FailsOver

theorem of_ok {verdict : Verdict α} {value : α} (answered : verdict.result = .ok value) :
    verdict.FailsOver subjects := by
  intro fault failed
  rw [answered] at failed
  contradiction

theorem pure {value : α} : (Pure.pure value : Verdict α).FailsOver subjects := of_ok rfl

theorem of_error {verdict : Verdict α} {fault : Fault} (failed : verdict.result = .error fault)
    (about : fault.subject ∈ subjects) : verdict.FailsOver subjects := by
  intro other again
  rw [failed] at again
  cases again
  exact about

theorem require {condition : Bool} {fault : Fault} (about : fault.subject ∈ subjects) :
    (Verdict.require condition fault).FailsOver subjects := by
  intro other failed
  obtain ⟨-, rfl⟩ := require_error_iff.mp failed
  exact about

theorem bind {verdict : Verdict α} {next : α → Verdict β} (first : verdict.FailsOver subjects)
    (rest : ∀ value, (next value).FailsOver subjects) :
    (verdict >>= next).FailsOver subjects := by
  intro fault failed
  rcases bind_error_iff.mp failed with failed | ⟨value, -, failed⟩
  · exact first fault failed
  · exact rest value fault failed

theorem orDump {verdict : Verdict α} {dump : String} (fails : verdict.FailsOver subjects) :
    (verdict.orDump dump).FailsOver subjects := by
  intro fault failed
  rw [result_orDump] at failed
  exact fails fault failed

end FailsOver

end Verdict

namespace Call
variable {σ τ α β : Type} {subjects more : List Subject}

/-- On whatever state the call fails, its fault is about one of the subjects. -/
def FailsOver (call : Call σ α) (subjects : List Subject) : Prop :=
  ∀ state, (call state).toVerdict.FailsOver subjects

namespace FailsOver

theorem of_succeeds {call : Call σ α} (succeeds : call.Succeeds) : call.FailsOver subjects := by
  intro state
  obtain ⟨value, answered⟩ := succeeds state
  exact .of_ok answered

theorem subject_ne {call : Call σ α} {state : σ} {fault : Fault} {other : Subject}
    (fails : call.FailsOver subjects) (failed : (call state).result = .error fault)
    (apart : other ∉ subjects) : fault.subject ≠ other := by
  rintro rfl
  exact apart (fails state fault failed)

theorem widen {call : Call σ α} (fails : call.FailsOver subjects) (wider : subjects ⊆ more) :
    call.FailsOver more :=
  fun state fault failed => wider (fails state fault failed)

theorem ask {question : σ → Verdict α} (fails : ∀ state, (question state).FailsOver subjects) :
    (Call.ask question).FailsOver subjects := fails

theorem bind {call : Call σ α} {next : α → Call σ β} (first : call.FailsOver subjects)
    (rest : ∀ value, (next value).FailsOver subjects) : (call >>= next).FailsOver subjects := by
  intro state fault failed
  rcases bind_error_iff.mp failed with failed | ⟨value, -, failed⟩
  · exact first state fault failed
  · exact rest value _ fault failed

theorem map {call : Call σ α} {f : α → β} (fails : call.FailsOver subjects) :
    (f <$> call).FailsOver subjects := bind fails fun _ => of_succeeds .pure

theorem on {part : σ → τ} {put : τ → σ → σ} {call : Call τ α} (fails : call.FailsOver subjects) :
    (call.on part put).FailsOver subjects := fun state => fails (part state)

end FailsOver

end Call

namespace Bus
variable {bus : Bus} {name : String} {given : Region} {interface : Interface}

theorem requireDisjoint_failsOver {table : RegionTable} :
    (requireDisjoint table name given).FailsOver [.region] := by
  unfold requireDisjoint
  split
  · exact .of_error rfl List.mem_cons_self
  · exact .pure

theorem requireLegal_failsOver {origin : UInt64} :
    (bus.requireLegal name origin given).FailsOver [.region] := by
  apply Verdict.FailsOver.bind (.require List.mem_cons_self)
  intro _
  split
  · exact .pure
  · exact requireDisjoint_failsOver
  · exact .bind (.require List.mem_cons_self) fun _ => requireDisjoint_failsOver

theorem settle_failsOver : (bus.settle name given).FailsOver [.region] := by
  apply Verdict.FailsOver.bind (.require List.mem_cons_self)
  intro _
  apply Verdict.FailsOver.bind (.require List.mem_cons_self)
  intro _
  split
  · exact .bind requireLegal_failsOver fun _ => .pure
  · apply Verdict.FailsOver.bind (.require List.mem_cons_self)
    intro _
    refine .bind ?_ fun _ => .pure
    intro fault failed
    rw [Placement.fault_of_place failed]
    exact List.mem_cons_self

theorem chooseSlave_failsOver {wanted : Option String} {window : Option Region} :
    (bus.chooseSlave wanted window).FailsOver [.slave] := by
  apply Verdict.FailsOver.bind (.require List.mem_cons_self)
  intro _
  apply Verdict.FailsOver.bind (.require List.mem_cons_self)
  intro _
  cases window with
  | none => exact .bind (.require List.mem_cons_self) fun _ => .pure
  | some region => exact .bind (.require List.mem_cons_self) fun _ => .pure

theorem attachSlave_failsOver {wanted : Option String} {window : Option Region} :
    (attachSlave wanted interface window).FailsOver [.slave, .region] := by
  intro bus fault failed
  rcases attachSlave_error_iff.mp failed with failed | ⟨_, -, _, -, failed⟩
  · have about := chooseSlave_failsOver fault failed
    rw [List.mem_singleton] at about
    rw [about]
    exact List.mem_cons_self
  · exact List.mem_cons_of_mem _ (settle_failsOver fault failed)

end Bus

namespace LocationTable
variable {table : LocationTable} {name : String}

theorem choose_failsOver {wanted : Option UInt32} :
    (table.choose name wanted).FailsOver [.location] := by
  apply Verdict.FailsOver.bind (.require List.mem_cons_self)
  intro _
  split
  · unfold vacancy
    split
    · exact .pure
    · exact .of_error rfl List.mem_cons_self
  · split
    · exact .of_error rfl List.mem_cons_self
    · exact .bind (.require List.mem_cons_self) fun _ => .pure

theorem assign_failsOver {wanted : Option UInt32} {reuse : Bool} :
    (assign name wanted reuse).FailsOver [.location] := by
  apply Call.FailsOver.bind (.of_succeeds fun table => ⟨table, rfl⟩)
  intro table
  split
  · exact .of_succeeds (.bind .info fun _ => .pure)
  · apply Call.FailsOver.bind (.ask fun table => .orDump choose_failsOver)
    intro slot
    exact .of_succeeds (.bind .update fun _ => .bind .info fun _ => .pure)

end LocationTable

theorem ConstantTable.define_failsOver {name : String} {value : Constant} :
    (define name value).FailsOver [.constant] := by
  apply Call.FailsOver.bind _ fun _ => .of_succeeds .update
  intro table
  change Verdict.FailsOver (if _ then _ else _) _
  split
  · exact .of_error rfl List.mem_cons_self
  · exact .pure

namespace Soc
variable {name : String}

theorem requireNew_failsOver : (requireNew name).FailsOver [.component] := by
  intro soc
  change Verdict.FailsOver (if _ then _ else _) _
  split
  · exact .of_error rfl List.mem_cons_self
  · exact .pure

theorem attachRegion_failsOver {region : Region} :
    (attachRegion name region).FailsOver [.slave, .region] := by
  apply Call.FailsOver.bind (.of_succeeds fun soc => ⟨soc, rfl⟩)
  intro soc
  exact .map (.on Bus.attachSlave_failsOver)

theorem assign_failsOver {space : Space} {wanted : Option UInt32} {reuse : Bool} :
    (assign space name wanted reuse).FailsOver [.location] := by
  cases space with
  | csr => exact .on (.on LocationTable.assign_failsOver)
  | irq => exact .on (.on LocationTable.assign_failsOver)

theorem configure_failsOver {value : Constant} :
    (configure name value).FailsOver [.constant] := .on ConstantTable.define_failsOver

end Soc

end SystemOnChip
