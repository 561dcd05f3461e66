import SystemOnChip.Proofs.Call.Refusal
import SystemOnChip.Proofs.Soc.Extension

/-! The marks that the parts of a declaration leave on a system: a component, a master, a
region, a location, a constant or the reset source. A part that succeeds leaves a mark that
was not there, and no part takes a mark away. -/
namespace SystemOnChip
open Relation (ReflTransGen)

theorem Bus.Extends.regionNames {bus after : Bus} (grown : bus.Extends after) {name : String}
    (member : name ∈ bus.regionNames) : name ∈ after.regionNames := by
  simp only [Bus.regionNames, List.map_append, List.mem_append] at member ⊢
  exact member.imp (.imp ((grown.regions.map _).mem ·) ((grown.windows.map _).mem ·))
    ((grown.linkerRegions.map _).mem ·)

/-- Without reuse, only a name that is not there is assigned a location. -/
theorem LocationTable.assign_new_runs {table : LocationTable} {name : String}
    {wanted : Option UInt32} : (assign name wanted false).Runs Step table fun _ _ =>
      table.get? name = none :=
  assign_records.weaken fun _ _ recorded => (choose_ok_iff.mp recorded.1).1

namespace Soc

inductive Mark where
  | component (name : String)
  | master (name : String)
  | region (name : String)
  | location (space : Space) (name : String)
  | constant (key : String)
  | resetSource (source : Option String)

/-- The mark is on the system. -/
def Mark.On : Mark → Soc → Prop
  | component name, soc => soc.peripherals.contains name = true
  | master name, soc => (soc.bus.master? name).isSome
  | region name, soc => name ∈ soc.bus.regionNames
  | location space name, soc => ((soc.locations space).get? name).isSome
  | constant key, soc => soc.constants.entries.contains key = true
  | resetSource source, soc => soc.resetSource = source

variable {α : Type} {soc : Soc} {mark : Mark} {name : String}

section Keeps

theorem onBus_keeps {call : Call Bus α} {post : Bus → α → Bus → Prop}
    (runs : ∀ bus, call.Runs Bus.Step bus (post bus)) : (onBus call).Keeps mark.On := by
  intro soc borne
  have grown : soc.bus.Extends (call soc.bus).state :=
    Call.keeps_of_path (fun _ _ moved grown => grown.trans (Bus.Step.extends moved))
      (runs soc.bus).path .refl
  cases mark with
  | master name =>
    obtain ⟨attachment, found⟩ := Option.isSome_iff_exists.mp borne
    exact Option.isSome_iff_exists.mpr ⟨attachment, Names.lookup_of_prefix grown.masters found⟩
  | region name => exact grown.regionNames borne
  | component | location | constant | resetSource => exact borne

theorem declareRegion_keeps {region : Region} : (declareRegion name region).Keeps mark.On :=
  onBus_keeps fun _ => Bus.declareRegion_runs

theorem attachMaster_keeps {wanted : Option String} {interface : Bus.Interface} :
    (attachMaster wanted interface).Keeps mark.On :=
  onBus_keeps fun _ => Bus.attachMaster_runs

theorem attachRegion_keeps {region : Region} : (attachRegion name region).Keeps mark.On :=
  .bind (.of_reads .current) fun _ => .map (onBus_keeps fun _ => Bus.attachSlave_runs)

theorem state_assign (space : Space) (wanted : Option UInt32) (reuse : Bool) :
    (assign space name wanted reuse soc).state = soc.withLocations space
      (LocationTable.assign name wanted reuse (soc.locations space)).state := by
  cases space <;> rfl

theorem assign_keeps {space : Space} {wanted : Option UInt32} {reuse : Bool} :
    (assign space name wanted reuse).Keeps mark.On := by
  intro soc borne
  rw [state_assign]
  have grown : (soc.locations space).Extends
      (LocationTable.assign name wanted reuse (soc.locations space)).state :=
    LocationTable.extends_of_steps LocationTable.assign_runs.path
  cases mark with
  | location other name =>
    change Option.isSome _
    rw [locations_withLocations]
    split
    next same =>
      subst same
      exact grown.slots.contains borne
    next => exact borne
  | component | master | region | constant | resetSource => cases space <;> exact borne

theorem claim_keeps {space : Space} : (claim space name).Keeps mark.On := .map assign_keeps

theorem attachCsrMaster_keeps {wanted : Option String} {interface : Csr.Interface} :
    (onCsr (Csr.attachMaster wanted interface)).Keeps mark.On := by
  intro soc borne
  have attached : (Csr.attachMaster wanted interface).Runs _ soc.csr _ :=
    Csr.attachMaster_runs (fun before after => after.locations = before.locations) fun _ _ => rfl
  have kept : ∀ before after : Csr, after.locations = before.locations →
      before.locations = soc.csr.locations → after.locations = soc.csr.locations :=
    fun _ _ => Eq.trans
  have same := attached.keeps kept rfl
  cases mark with
  | location space name =>
    cases space with
    | csr =>
      change ((Csr.attachMaster wanted interface soc.csr).state.locations.get? name).isSome
      rw [same]
      exact borne
    | irq => exact borne
  | component | master | region | constant | resetSource => exact borne

theorem define_keeps {value : Constant} : (define name value).Keeps mark.On := by
  intro soc borne
  have kept : ∀ before after : ConstantTable, ConstantTable.Step before after →
      soc.constants.entries.Within before.entries →
      soc.constants.entries.Within after.entries := by
    rintro before _ ⟨fresh⟩ grown
    exact grown.trans (NameMap.within_insert fresh)
  have defined : (ConstantTable.define name value).Runs _ soc.constants _ :=
    ConstantTable.define_runs
  have grown := defined.keeps kept .refl
  cases mark with
  | constant key => exact grown.contains borne
  | component | master | region | location | resetSource => exact borne

theorem configure_keeps {value : Constant} : (configure name value).Keeps mark.On := define_keeps

theorem install_keeps {peripheral : Peripheral} : (install name peripheral).Keeps mark.On := by
  refine .update fun soc borne => ?_
  cases mark with
  | component other =>
    change NameMap.contains _ other = true
    rw [NameMap.contains_insert]
    exact Bool.or_eq_true_iff.mpr (.inr borne)
  | master | region | location | constant | resetSource => exact borne

/-- Moving the reset source takes away no other mark. -/
theorem reset_keeps (other : ∀ source, mark ≠ .resetSource source) :
    (Call.update fun soc : Soc => { soc with
      resetSource := soc.controller <|> soc.resetSource }).Keeps mark.On := by
  refine .update fun soc borne => ?_
  cases mark with
  | resetSource source => exact absurd rfl (other source)
  | component | master | region | location | constant => exact borne

theorem enterCpu_keeps {core : Cpu} : (enterCpu core).Keeps mark.On := by
  refine .bind (.forM fun entry => .map declareRegion_keeps) fun _ => ?_
  refine .bind configure_keeps fun _ => .bind configure_keeps fun _ => .bind install_keeps fun _ => ?_
  refine .update fun soc borne => ?_
  cases mark <;> exact borne

end Keeps

section Marks

theorem install_marks {peripheral : Peripheral} (fresh : soc.peripherals.contains name = false) :
    (install name peripheral).Marks soc (Mark.component name).On := by
  rintro _ -
  exact ⟨Bool.eq_false_iff.mp fresh, NameMap.contains_insert_self⟩

theorem addPeripheral_marks {peripheral : Peripheral} :
    (addPeripheral name peripheral).Marks soc (Mark.component name).On := by
  intro _ ended
  obtain ⟨fresh, after⟩ := addPeripheral_runs.done _ ended
  rw [after]
  exact install_marks fresh () rfl

theorem attachMaster_marks {interface : Bus.Interface} :
    (attachMaster (some name) interface).Marks soc (Mark.master name).On := by
  intro answer ended
  obtain ⟨chosen, attachment, -, after⟩ := attachMaster_runs.done _ ended
  obtain ⟨rfl, fresh⟩ := Bus.chooseMaster_ok_iff.mp chosen
  refine ⟨Option.not_isSome_iff_eq_none.mpr (Option.isNone_iff_eq_none.mp fresh), ?_⟩
  rw [after]
  exact Option.isSome_iff_exists.mpr ⟨attachment, Names.lookup_concat_of_isNone fresh⟩

/-- A region that is stored comes under a new name. -/
theorem region_marks {bus : Bus} {given stored : Region}
    (settled : (bus.settle name given).result = .ok stored) :
    name ∉ bus.regionNames ∧ name ∈ (bus.store name stored).regionNames :=
  ⟨(Bus.settled_of_settle settled).1.fresh,
    Bus.regionNames_store.mem_iff.mpr List.mem_cons_self⟩

theorem declareRegion_marks {region : Region} :
    (declareRegion name region).Marks soc (Mark.region name).On := by
  intro stored ended
  obtain ⟨settled, after⟩ := declareRegion_runs.done _ ended
  rw [after]
  exact region_marks settled

theorem attachRegion_marks {region : Region} :
    (attachRegion name region).Marks soc (Mark.region name).On := by
  have attached : (attachSlave (some name) ⟨soc.bus.dataWidth⟩ (some region)).Marks soc
      (Mark.region name).On := by
    intro answer ended
    obtain ⟨chosen, _, _, ⟨stored, settled, rfl⟩, -, after⟩ := attachSlave_runs.done _ ended
    obtain ⟨-, rfl, -⟩ := Bus.chooseSlave_ok_iff.mp chosen
    rw [after]
    exact region_marks settled
  exact .map attached

theorem assign_marks {space : Space} {wanted : Option UInt32} {reuse : Bool}
    (absent : (soc.locations space).get? name = none) :
    (assign space name wanted reuse).Marks soc (Mark.location space name).On := by
  intro slot ended
  obtain ⟨table, assigned, after⟩ := assign_runs.done _ ended
  refine ⟨Option.not_isSome_iff_eq_none.mpr absent, ?_⟩
  change Option.isSome _
  rw [after, locations_withLocations, if_pos rfl]
  exact Option.isSome_iff_exists.mpr ⟨slot, assigned.known⟩

theorem assign_new_marks {space : Space} {wanted : Option UInt32} :
    (assign space name wanted false).Marks soc (Mark.location space name).On := by
  intro slot ended
  have table : (LocationTable.assign name wanted false (soc.locations space)).result = .ok slot := by
    cases space <;> exact ended
  exact assign_marks (LocationTable.assign_new_runs.done slot table) slot ended

theorem define_marks {value : Constant} :
    (define name value).Marks soc (Mark.constant (Text.upper name)).On := by
  intro _ ended
  obtain ⟨fresh, after⟩ := define_runs.done _ ended
  rw [after]
  exact ⟨Bool.eq_false_iff.mp fresh, NameMap.contains_insert_self⟩

theorem configure_marks {value : Constant} : (configure name value).Marks soc
    (Mark.constant (Text.upper (ConstantTable.setting name value).1)).On :=
  define_marks

end Marks

end Soc

end SystemOnChip
