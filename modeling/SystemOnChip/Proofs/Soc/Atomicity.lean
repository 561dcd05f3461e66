import SystemOnChip.Proofs.Bus.Failure
import SystemOnChip.Proofs.Bus.Soundness
import SystemOnChip.Proofs.Location.Reuse

/-! Calls that declare one thing leave nothing behind where they fail: on a bus, on
tables of locations and of constants, on the registers, and on a whole system. Those of
them that fail may therefore be dropped from any run. -/
namespace SystemOnChip

theorem LocationTable.assign_atomic {name : String} {wanted : Option UInt32} {reuse : Bool} :
    (assign name wanted reuse).Atomic := by
  refine .behind .current fun table => ?_
  split
  · exact .of_succeeds (.bind .info fun _ => .pure)
  · refine .behind .ask fun slot => .of_succeeds ?_
    exact .bind .update fun _ => .bind .info fun _ => .pure

theorem Csr.assign_atomic {name : String} {wanted : Option UInt32} {reuse : Bool} :
    (assign name wanted reuse).Atomic :=
  .on LocationTable.assign_atomic fun _ => rfl

theorem Csr.attachMaster_atomic {wanted : Option String} {interface : Interface} :
    (attachMaster wanted interface).Atomic := by
  refine .behind .ask fun name => .of_succeeds ?_
  exact .bind .update fun _ => .bind .info fun _ => .pure

theorem Irq.assign_atomic {name : String} {wanted : Option UInt32} {reuse : Bool} :
    (assign name wanted reuse).Atomic :=
  .on LocationTable.assign_atomic fun _ => rfl

/-- A request for an interrupt line. -/
def Irq.perform (request : LocationTable.Request) : Call Irq UInt32 :=
  assign request.name request.wanted request.reuse

theorem ConstantTable.define_atomic {name : String} {value : Constant} :
    (define name value).Atomic :=
  .behind .ask fun _ => .of_succeeds .update

namespace Soc
variable {name : String}

/-- Whether a declaration declares one thing only. -/
def Declaration.IsPrimitive : Declaration → Prop
  | region .. | master .. | slave .. | location .. | constant .. | setting .. | peripheral ..
  | ram .. | rom .. => True
  | controller _ | csrBridge _ | cpu _ | timer _ | identifier .. | uart .. | sdram .. => False

theorem declareRegion_atomic {region : Region} : (declareRegion name region).Atomic :=
  .on Bus.declareRegion_atomic fun _ => rfl

theorem attachMaster_atomic {wanted : Option String} {interface : Bus.Interface} :
    (attachMaster wanted interface).Atomic :=
  .on Bus.attachMaster_atomic fun _ => rfl

theorem attachSlave_atomic {wanted : Option String} {interface : Bus.Interface}
    {window : Option Region} : (attachSlave wanted interface window).Atomic :=
  .on Bus.attachSlave_atomic fun _ => rfl

theorem assign_atomic {space : Space} {wanted : Option UInt32} {reuse : Bool} :
    (assign space name wanted reuse).Atomic := by
  cases space with
  | csr => exact .on Csr.assign_atomic fun _ => rfl
  | irq => exact .on Irq.assign_atomic fun _ => rfl

theorem define_atomic {value : Constant} : (define name value).Atomic :=
  .on ConstantTable.define_atomic fun _ => rfl

theorem configure_atomic {value : Constant} : (configure name value).Atomic := define_atomic

theorem addPeripheral_atomic {peripheral : Peripheral} : (addPeripheral name peripheral).Atomic :=
  .behind .ask fun _ => .of_succeeds .update

theorem attachRegion_atomic {region : Region} : (attachRegion name region).Atomic :=
  .behind .current fun _ => .map attachSlave_atomic

theorem addRam_atomic {origin size : UInt64} {mode : AccessMode} :
    (addRam name origin size mode).Atomic :=
  .behind .ask fun _ => .before attachRegion_atomic fun _ => .bind .update fun _ => .info

theorem perform_atomic {declaration : Declaration} (primitive : declaration.IsPrimitive) :
    declaration.perform.Atomic := by
  cases declaration with
  | region => exact .map declareRegion_atomic
  | master => exact .map attachMaster_atomic
  | slave => exact .map attachSlave_atomic
  | location => exact .map assign_atomic
  | constant => exact .map define_atomic
  | setting => exact .map configure_atomic
  | peripheral => exact .map addPeripheral_atomic
  | ram => exact .map addRam_atomic
  | rom => exact .map addRam_atomic
  | controller | csrBridge | cpu | timer | identifier | uart | sdram => contradiction

/-- Where a call that declares one thing fails, everything is as it was before the call:
the bus, the table or the registers that it was made on, or the whole system. So the
failed calls of this sort may be dropped from a run without a change to the others. -/
theorem primitives_leave_no_trace :
    Call.Traceless Bus.Declaration.perform (fun _ => True) ∧
    Call.Traceless LocationTable.Request.perform (fun _ => True) ∧
    Call.Traceless Csr.Declaration.perform (fun _ => True) ∧
    Call.Traceless Irq.perform (fun _ => True) ∧
    Call.Traceless ConstantTable.Definition.perform (fun _ => True) ∧
    Call.Traceless Declaration.perform Declaration.IsPrimitive := by
  refine ⟨?bus, ?table, ?registers, ?lines, ?constants, ?system⟩ <;>
    refine Call.traceless_of_atomic fun call sorted => ?_
  case bus =>
    cases call with
    | region => exact .map Bus.declareRegion_atomic
    | master => exact .map Bus.attachMaster_atomic
    | slave => exact .map Bus.attachSlave_atomic
  case table => exact LocationTable.assign_atomic
  case registers =>
    cases call with
    | location => exact .map Csr.assign_atomic
    | master => exact .map Csr.attachMaster_atomic
  case lines => exact Irq.assign_atomic
  case constants => cases call <;> exact ConstantTable.define_atomic
  case system => exact perform_atomic sorted

/-- A memory over another one and a line that is not there are refused between a rom and
a timer, and are dropped. -/
theorem refused_memory_dropped : ∃ soc : Soc, soc.Reachable ∧
    (Call.transcript Declaration.perform soc [.rom "rom" 0 0x1000,
      .ram "sram" 0 0x1000 .readWrite, .location .irq "timer" (some 40) false,
      .timer "timer"]).map (·.2.result) =
        [.ok .done, .error (.regionOverlap "rom" "sram"),
          .error (.locationOutOfRange "IRQ" 40 32), .ok .done] ∧
    Call.leaves Declaration.perform soc [.rom "rom" 0 0x1000, .timer "timer"] =
      Call.leaves Declaration.perform soc [.rom "rom" 0 0x1000,
        .ram "sram" 0 0x1000 .readWrite, .location .irq "timer" (some 40) false,
        .timer "timer"] := by
  let declarations : List Declaration := [.rom "rom" 0 0x1000, .ram "sram" 0 0x1000 .readWrite,
    .location .irq "timer" (some 40) false, .timer "timer"]
  have evaluated : (do
      let soc ← run windowed []
      pure ((Call.transcript Declaration.perform soc declarations).map (·.2.result)) :
      Verdict (List (Except Fault Reply))).result = .ok [.ok .done,
        .error (.regionOverlap "rom" "sram"), .error (.locationOutOfRange "IRQ" 40 32),
        .ok .done] := by
    decide +kernel
  simp only [Verdict.bind_ok_iff, Verdict.result_pure, Except.ok.injEq] at evaluated
  obtain ⟨soc, ran, answers⟩ := evaluated
  refine ⟨soc, reachable_of_run ran, answers, ?_⟩
  simp only [declarations, Call.transcript, List.map_cons, List.cons.injEq] at answers
  obtain ⟨-, memory, line, -⟩ := answers
  have traceless := primitives_leave_no_trace.2.2.2.2.2
  exact (traceless.dropped soc declarations _
    (.keep (.drop ⟨trivial, _, memory⟩ (.drop ⟨trivial, _, line⟩ (.keep .nil))))).2

end Soc

end SystemOnChip
