import SystemOnChip.Bus.Declare
import SystemOnChip.Proofs.Call.Reporting
import SystemOnChip.Proofs.Csr
import SystemOnChip.Proofs.Soc.Atomicity

/-! What is logged of failures on the buses and on the tables of locations. Verdicts are quiet,
and each call passes the one that refuses it on with a dump of its tables, once. Only the look-up
of a decoder is refused without a word where no region has the name. -/
namespace SystemOnChip

namespace Placement
variable {request : Placement} {placed : RegionTable}

/-- Candidates are skipped with a debug event each. -/
theorem errors_searchFrom {space : Region} {origin : UInt64} :
    Event.errors (request.searchFrom placed space origin).2 = [] := by
  fun_induction searchFrom request placed space origin
  case case3 rest ih =>
    rw [rest] at ih
    exact ih
  all_goals rfl

theorem errors_searchSpace {space : Region} :
    Event.errors (request.searchSpace placed space).2 = [] := by
  rw [searchSpace]
  split
  · rfl
  · exact errors_searchFrom

theorem errors_searchSpaces {spaces : List Region} :
    Event.errors (request.searchSpaces placed spaces).2 = [] := by
  induction spaces with
  | nil => rfl
  | cons space rest ih =>
    have silent := @errors_searchSpace request placed space
    rw [searchSpaces]
    split
    next found => rwa [found] at silent
    next missed =>
      rw [missed] at silent
      rw [Event.errors_append, ih, List.append_nil]
      exact silent

theorem place_quiet {addressWidth : UInt32} {windows : RegionTable} :
    (request.place addressWidth windows placed).Quiet := by
  have silent := @errors_searchSpaces request placed (request.spaces addressWidth windows)
  unfold place
  dsimp only
  split
  · exact silent
  · exact silent

end Placement

theorem Decoder.ofRegion_quiet {name : String} {region : Region} {dataWidth addressWidth : UInt32} :
    (ofRegion name region dataWidth addressWidth).Quiet := by
  unfold ofRegion
  split
  · exact .fail
  · dsimp only
    split
    · exact .fail
    · exact .pure

namespace Bus
variable {bus : Bus} {name : String} {given : Region} {interface : Interface}

theorem requireDisjoint_quiet {table : RegionTable} :
    (requireDisjoint table name given).Quiet := by
  unfold requireDisjoint
  split
  · exact .fail
  · exact .pure

theorem requireLegal_quiet {origin : UInt64} : (bus.requireLegal name origin given).Quiet := by
  apply Verdict.Quiet.bind .require
  intro _
  split
  · exact .pure
  · exact requireDisjoint_quiet
  · exact .bind .require fun _ => requireDisjoint_quiet

theorem settle_quiet : (bus.settle name given).Quiet := by
  apply Verdict.Quiet.bind .require
  intro _
  apply Verdict.Quiet.bind .require
  intro _
  split
  · exact .bind requireLegal_quiet fun _ => .pure
  · exact .bind .require fun _ => .bind Placement.place_quiet fun _ => .pure

theorem declareRegion_reports : (declareRegion name given).Reports text := by
  apply Call.Reports.bind (.ask fun bus => .orDump settle_quiet)
  intro stored
  apply Call.Reports.bind .update
  intro _
  dsimp only
  split
  · exact .bind .info fun _ => .pure
  · exact .bind .info fun _ => .pure

theorem adapt_reports : (Call.ask (·.adapt name interface) : Call Bus Attachment).Reports text := by
  apply Call.Reports.ask
  intro bus
  rw [adapt]
  split
  · rfl
  · rfl

theorem chooseMaster_quiet {wanted : Option String} : (bus.chooseMaster wanted).Quiet :=
  .bind .require fun _ => .pure

theorem attachMaster_reports {wanted : Option String} :
    (attachMaster wanted interface).Reports text := by
  apply Call.Reports.bind (.ask fun bus => .orDump chooseMaster_quiet)
  intro answer
  apply Call.Reports.bind adapt_reports
  intro attachment
  exact .bind .update fun _ => .bind .info fun _ => .pure

theorem chooseSlave_quiet {wanted : Option String} {window : Option Region} :
    (bus.chooseSlave wanted window).Quiet := by
  apply Verdict.Quiet.bind .require
  intro _
  apply Verdict.Quiet.bind .require
  intro _
  cases window with
  | none => exact .bind .require fun _ => .pure
  | some region => exact .bind .require fun _ => .pure

/-- A refused region is reported by its own declaration, and not again for the slave. -/
theorem attachSlave_reports {wanted : Option String} {window : Option Region} :
    (attachSlave wanted interface window).Reports text := by
  apply Call.Reports.bind (.ask fun bus => .orDump chooseSlave_quiet)
  intro answer
  have attached : (do
      let attachment ← Call.ask (·.adapt answer interface)
      Call.update fun bus : Bus => { bus with slaves := bus.slaves ++ [(answer, attachment)] }
      Call.info s!"{answer} added as bus slave"
      return answer : Call Bus String).Reports text :=
    .bind adapt_reports fun _ => .bind .update fun _ => .bind .info fun _ => .pure
  cases window with
  | none => exact attached
  | some region => exact .bind (.map declareRegion_reports) fun _ => attached

theorem Declaration.perform_reports (declaration : Declaration) :
    declaration.perform.Reports text := by
  cases declaration with
  | region => exact .map declareRegion_reports
  | master => exact .map attachMaster_reports
  | slave => exact .map attachSlave_reports

theorem decoder_of_unknown (unknown : bus.regions.contains name = false) :
    bus.decoder name = .fail (.unknownRegion name) := by
  rw [RegionTable.contains, Option.isSome_eq_false_iff, Option.isNone_iff_eq_none] at unknown
  rw [decoder, unknown]

theorem decoderFor_reports : (bus.decoderFor name given).Reports bus.text :=
  .orDump Decoder.ofRegion_quiet

theorem decoder_reports_iff :
    (bus.decoder name).Reports bus.text ↔ bus.regions.contains name = true := by
  cases held : bus.regions.contains name with
  | true =>
    obtain ⟨region, found⟩ := Option.isSome_iff_exists.mp held
    rw [decoder, found]
    exact iff_of_true decoderFor_reports rfl
  | false =>
    rw [decoder_of_unknown held]
    refine iff_of_false (fun reported => ?_) Bool.false_ne_true
    contradiction

/-- A call on a bus that may be refused, as data. -/
inductive Method where
  | declare (declaration : Declaration)
  | decoder (name : String)
  | decoderFor (name : String) (region : Region)

def Method.perform : Method → Call Bus ((Region ⊕ String) ⊕ Decoder)
  | declare declaration => .inl <$> declaration.perform
  | decoder name => .inr <$> .ask (·.decoder name)
  | decoderFor name region => .inr <$> .ask (·.decoderFor name region)

/-- Nothing but the look-up of a region that is not there goes unreported. -/
theorem Method.perform_reportsAt_iff (method : Method) : method.perform.ReportsAt bus text ↔
    ∀ name, method = .decoder name → bus.regions.contains name = true := by
  cases method with
  | declare declaration =>
    refine iff_of_true (Call.Reports.map declaration.perform_reports bus) ?_
    rintro name ⟨⟩
  | decoder name =>
    rw [perform, Call.reportsAt_map_iff]
    simp only [decoder.injEq, forall_eq']
    exact decoder_reports_iff
  | decoderFor name region =>
    refine iff_of_true (Call.reportsAt_map_iff.mpr decoderFor_reports) ?_
    rintro name ⟨⟩

end Bus

namespace LocationTable
variable {table : LocationTable} {name : String}

theorem vacancy_quiet : (table.vacancy name).Quiet := by
  unfold vacancy
  split
  · exact .pure
  · rfl

theorem choose_quiet {wanted : Option UInt32} : (table.choose name wanted).Quiet := by
  apply Verdict.Quiet.bind .require
  intro _
  split
  · exact vacancy_quiet
  · split
    · exact .fail
    · exact .bind .require fun _ => .pure

theorem allocate_reports : (table.allocate name).Reports table.text := .orDump vacancy_quiet

theorem assign_reports {wanted : Option UInt32} {reuse : Bool} :
    (assign name wanted reuse).Reports text := by
  apply Call.Reports.bind .current
  intro table
  split
  · exact .bind .info fun _ => .pure
  · apply Call.Reports.bind (.ask fun table => .orDump choose_quiet)
    intro slot
    exact .bind .update fun _ => .bind .info fun _ => .pure

/-- A call on a table that may be refused, as data. -/
inductive Method where
  | assign (request : Request)
  | allocate (name : String)

def Method.perform : Method → Call LocationTable UInt32
  | assign request => request.perform
  | allocate name => .ask (·.allocate name)

theorem Method.perform_reports (method : Method) : method.perform.Reports text := by
  cases method with
  | assign => exact assign_reports
  | allocate => exact .ask fun _ => allocate_reports

end LocationTable

namespace Csr
variable {csr : Csr}

theorem assign_reports {name : String} {wanted : Option UInt32} {reuse : Bool} :
    (assign name wanted reuse).Reports (LocationTable.text ∘ locations) :=
  .on LocationTable.assign_reports fun _ _ => rfl

theorem attachMaster_reports {wanted : Option String} {interface : Interface} :
    (attachMaster wanted interface).Reports (LocationTable.text ∘ locations) := by
  apply Call.Reports.bind (.ask fun csr => .orDump ?chosen)
  · intro name
    exact .bind .update fun _ => .bind .info fun _ => .pure
  case chosen => exact .bind .require fun _ => .bind .require fun _ => .pure

theorem Declaration.perform_reports (declaration : Declaration) :
    declaration.perform.Reports (LocationTable.text ∘ locations) := by
  cases declaration with
  | location => exact .map assign_reports
  | master => exact .map attachMaster_reports

theorem locate_reports {component : String} {memory : Option String} :
    (csr.locate component memory).Reports csr.locations.text := by
  unfold locate
  dsimp only
  split
  · rfl
  · exact .orDump .fail

/-- A call on the registers that may be refused, as data. -/
inductive Method where
  | declare (declaration : Declaration)
  | allocate (name : String)
  | locate (component : String) (memory : Option String)

def Method.perform : Method → Call Csr (UInt32 ⊕ String)
  | declare declaration => declaration.perform
  | allocate name => .inl <$> onLocations (.ask (·.allocate name))
  | locate component memory => .inl <$> .ask (·.locate component memory)

theorem Method.perform_reports (method : Method) :
    method.perform.Reports (LocationTable.text ∘ locations) := by
  cases method with
  | declare => exact Declaration.perform_reports _
  | allocate => exact .map (.on (.ask fun _ => LocationTable.allocate_reports) fun _ _ => rfl)
  | locate => exact .map (.ask fun _ => locate_reports)

end Csr

/-- The lines have no calls but those of their table. -/
theorem Irq.perform_reports (method : LocationTable.Method) :
    (onLocations method.perform).Reports (LocationTable.text ∘ locations) :=
  .on method.perform_reports fun _ _ => rfl

/-- On every state, a call on a bus, on a table of locations, on the registers or on the lines
emits one error event if it fails, the fault and a dump of the tables as they are after the call,
and none if it succeeds. The only exception is the look-up of the decoder of a region that is
not on the bus, which fails without any event. -/
theorem failures_reported_once (bus : Bus) (method : Bus.Method) :
    (method.perform.ReportsAt bus Bus.text ↔
      ∀ name, method = .decoder name → bus.regions.contains name = true) ∧
    (∀ name, bus.regions.contains name = false →
      bus.decoder name = .fail (.unknownRegion name)) ∧
    (∀ method : LocationTable.Method, method.perform.Reports LocationTable.text) ∧
    (∀ method : Csr.Method, method.perform.Reports fun csr => csr.locations.text) ∧
    ∀ method : LocationTable.Method,
      (Irq.onLocations method.perform).Reports fun irq => irq.locations.text :=
  ⟨method.perform_reportsAt_iff, fun _ => Bus.decoder_of_unknown, LocationTable.Method.perform_reports,
    Csr.Method.perform_reports, Irq.perform_reports⟩

/-- The decoder of a rom that no bus has is refused without a word, while a slave is refused for
the same fault with a report. -/
theorem unknown_decoder_unreported : ∃ bus, (Bus.ofConfig {}).result = .ok bus ∧
    (bus.decoder "rom").result = .error (.unknownRegion "rom") ∧
    Event.errors (bus.decoder "rom").log = [] ∧
    ¬ (Bus.Method.decoder "rom").perform.ReportsAt bus Bus.text ∧
    (Bus.attachSlave (some "rom") ⟨32⟩ none bus).result = .error (.unknownRegion "rom") ∧
    Event.errors (Bus.attachSlave (some "rom") ⟨32⟩ none bus).log =
      [⟨.error, "unable to find region rom\n32-bit wishbone Bus, 4GiB Address Space."⟩] := by
  have created : ∃ bus, (Bus.ofConfig {}).result = .ok bus := ⟨_, rfl⟩
  obtain ⟨bus, accepted⟩ := created
  have evaluated : bus.regions.contains "rom" = false ∧
      (Bus.attachSlave (some "rom") ⟨32⟩ none bus).result = .error (.unknownRegion "rom") ∧
      Event.errors (Bus.attachSlave (some "rom") ⟨32⟩ none bus).log =
        [⟨.error, "unable to find region rom\n32-bit wishbone Bus, 4GiB Address Space."⟩] := by
    cases accepted
    decide +kernel
  obtain ⟨missing, sibling⟩ := evaluated
  have refused := Bus.decoder_of_unknown missing
  refine ⟨bus, accepted, ?_, ?_, fun reported => ?_, sibling⟩
  · rw [refused]
    rfl
  · rw [refused]
    rfl
  · have there := (Bus.Method.perform_reportsAt_iff _).mp reported "rom" rfl
    rw [missing] at there
    contradiction

end SystemOnChip
