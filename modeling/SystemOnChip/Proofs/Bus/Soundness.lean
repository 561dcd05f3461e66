import Mathlib.Data.List.Pairwise
import SystemOnChip.Proofs.Bus.Steps

/-! The invariant of a bus. It holds when a bus is created from a configuration,
and every step keeps it, so that it holds after any declarations, failed ones
included. -/
namespace SystemOnChip.Bus
open Relation (ReflTransGen)

structure Sound (bus : Bus) : Prop where
  dataWidth : bus.dataWidth ∈ supportedDataWidths
  addressWidth : bus.addressWidth ∈ supportedAddressWidths
  apart : ∀ kind ≠ .linker, (bus.table kind).entries.Pairwise fun a b => a.2.Apart b.2
  distinct : bus.regionNames.Nodup
  placed : ∀ kind, ∀ entry ∈ (bus.table kind).entries, entry.2.kind = kind ∧ entry.2.IsPlaced
  fits : ∀ kind ≠ .linker, ∀ entry ∈ (bus.table kind).entries,
    entry.2.limit ≤ 2 ^ bus.addressWidth.toNat
  uncached : ∀ entry ∈ bus.regions.entries, entry.2.cached = false →
    ∃ window ∈ bus.windows.entries, entry.2.Inside window.2
  mastersDistinct : (bus.masters.map (·.1)).Nodup
  slavesDistinct : (bus.slaves.map (·.1)).Nodup
  slavesDeclared : ∀ slave ∈ bus.slaves, slave.1 ∈ bus.regions.entries.map (·.1)
  adapted : ∀ entry ∈ bus.masters ++ bus.slaves, entry.2.Matches bus.dataWidth

variable {bus after : Bus} {name : String} {stored : Region}

@[simp] theorem store_dataWidth : (bus.store name stored).dataWidth = bus.dataWidth := by
  cases kind : stored.kind <;> simp only [store, kind]

@[simp] theorem store_addressWidth : (bus.store name stored).addressWidth = bus.addressWidth := by
  cases kind : stored.kind <;> simp only [store, kind]

@[simp] theorem store_masters : (bus.store name stored).masters = bus.masters := by
  cases kind : stored.kind <;> simp only [store, kind]

@[simp] theorem store_slaves : (bus.store name stored).slaves = bus.slaves := by
  cases kind : stored.kind <;> simp only [store, kind]

theorem mem_table_store (kind : RegionKind) {entry : String × Region} :
    entry ∈ ((bus.store name stored).table kind).entries ↔
      entry ∈ (bus.table kind).entries ∨ stored.kind = kind ∧ entry = (name, stored) := by
  rw [table_store_entries, List.mem_append]
  split <;> simp [*]

/-- A bus region that is found stays found. -/
theorem Step.get?_regions (moved : Step bus after)
    (found : bus.regions.get? name = some stored) :
    after.regions.get? name = some stored := by
  cases moved with
  | @region added given stored settled =>
    unfold store
    split
    next => exact RegionTable.get?_push_of_some found
    next => exact found
    next => exact found
  | master => exact found
  | slave => exact found

theorem Step.slave?_isSome (moved : Step bus after) (found : (bus.slave? name).isSome) :
    (after.slave? name).isSome := by
  cases moved with
  | region settled => rwa [slave?, store_slaves]
  | master => exact found
  | slave =>
    rw [slave?, Names.lookup_isSome_iff] at found ⊢
    rw [List.map_append]
    exact List.mem_append_left _ found

namespace Sound

theorem addressWidth_eq (sound : bus.Sound) : bus.addressWidth = 32 :=
  List.mem_singleton.mp sound.addressWidth

theorem addressLimit_eq (sound : bus.Sound) :
    bus.addressLimit.toNat = 2 ^ bus.addressWidth.toNat := by
  rw [addressLimit, sound.addressWidth_eq]
  rfl

/-- Every region that is checked for overlap ends within the word range. -/
theorem limit_lt (sound : bus.Sound) {kind : RegionKind} (decoded : kind ≠ .linker)
    {entry : String × Region} (member : entry ∈ (bus.table kind).entries) :
    entry.2.limit < UInt64.size := by
  have fits := sound.fits kind decoded entry member
  rw [sound.addressWidth_eq] at fits
  exact Nat.lt_of_le_of_lt fits (by decide)

theorem bounded (sound : bus.Sound) {kind : RegionKind} (decoded : kind ≠ .linker)
    {entry : String × Region} (member : entry ∈ (bus.table kind).entries) : entry.2.IsBounded :=
  (sound.placed kind entry member).2.bounded (sound.limit_lt decoded member)

/-- A region overlaps those of its kind that it shares a byte with. -/
theorem overlaps_iff_meets (sound : bus.Sound) (decoded : stored.kind ≠ .linker)
    (bounded : stored.IsBounded) {entry : String × Region}
    (member : entry ∈ (bus.table stored.kind).entries) :
    entry.2.overlaps stored = true ↔ entry.2.Meets stored := by
  have kind := (sound.placed stored.kind entry member).1
  rw [(sound.bounded decoded member).overlaps_iff_meets bounded, kind]
  simp only [ne_eq, decoded, not_false_eq_true, true_and]

/-- Different entries of a table that is checked for overlap share no byte. -/
theorem apart_of_ne (sound : bus.Sound) {kind : RegionKind} (decoded : kind ≠ .linker)
    {a b : String × Region} (memberA : a ∈ (bus.table kind).entries)
    (memberB : b ∈ (bus.table kind).entries) (different : a ≠ b) : a.2.Apart b.2 := by
  have symmetric : Std.Symm fun a b : String × Region => a.2.Apart b.2 :=
    ⟨fun _ _ apart => apart.symm⟩
  have apart := (sound.apart kind decoded).forall
  exact apart memberA memberB different

theorem settled_limit_le (sound : bus.Sound) (settled : bus.Settled name stored)
    (decoded : stored.kind ≠ .linker) : stored.limit ≤ 2 ^ bus.addressWidth.toNat := by
  rcases settled.room decoded with within | ⟨window, member, inside⟩
  · rwa [sound.addressLimit_eq] at within
  · have fits := sound.fits .io (by decide) window member
    exact Nat.le_trans (Nat.le_of_lt inside.2) fits

theorem store_apart (sound : bus.Sound) (settled : bus.Settled name stored) (kind : RegionKind)
    (decoded : kind ≠ .linker) :
    ((bus.store name stored).table kind).entries.Pairwise fun a b => a.2.Apart b.2 := by
  rw [table_store_entries]
  split
  next same =>
    subst same
    rw [List.pairwise_append]
    refine ⟨sound.apart _ decoded, List.pairwise_singleton _ _, fun entry member other single => ?_⟩
    rw [List.mem_singleton.mp single]
    have limit := sound.settled_limit_le settled decoded
    rw [sound.addressWidth_eq] at limit
    have bounded := settled.placed.bounded (Nat.lt_of_le_of_lt limit (by decide))
    rw [← Region.not_meets_iff, ← sound.overlaps_iff_meets decoded bounded member,
      Bool.not_eq_true]
    exact settled.separate entry member
  next => simpa using sound.apart kind decoded

theorem store (sound : bus.Sound) (settled : bus.Settled name stored) :
    (bus.store name stored).Sound where
  dataWidth := by simpa using sound.dataWidth
  addressWidth := by simpa using sound.addressWidth
  apart := sound.store_apart settled
  distinct := by
    rw [regionNames_store.nodup_iff, List.nodup_cons]
    exact ⟨settled.fresh, sound.distinct⟩
  placed := by
    intro kind entry member
    rcases (mem_table_store kind).mp member with member | ⟨same, rfl⟩
    · exact sound.placed kind entry member
    · exact ⟨same, settled.placed⟩
  fits := by
    intro kind decoded entry member
    rw [store_addressWidth]
    rcases (mem_table_store kind).mp member with member | ⟨same, rfl⟩
    · exact sound.fits kind decoded entry member
    · exact sound.settled_limit_le settled (same ▸ decoded)
  uncached := by
    intro entry member uncached
    have window : ∃ window ∈ bus.windows.entries, entry.2.Inside window.2 := by
      rcases (mem_table_store .bus).mp member with member | ⟨same, rfl⟩
      · exact sound.uncached entry member uncached
      · exact settled.uncached same uncached
    obtain ⟨window, listed, inside⟩ := window
    exact ⟨window, (mem_table_store .io).mpr (.inl listed), inside⟩
  mastersDistinct := by simpa using sound.mastersDistinct
  slavesDistinct := by simpa using sound.slavesDistinct
  slavesDeclared := by
    intro slave member
    rw [store_slaves] at member
    obtain ⟨entry, listed, same⟩ := List.mem_map.mp (sound.slavesDeclared slave member)
    exact List.mem_map.mpr ⟨entry, (mem_table_store .bus).mpr (.inl listed), same⟩
  adapted := by simpa using sound.adapted

/-- A name put behind distinct ones, among which it was not found. -/
theorem concat_distinct {entries : List (String × Attachment)} {attachment : Attachment}
    (distinct : (entries.map (·.1)).Nodup) (fresh : (entries.lookup name).isNone) :
    ((entries ++ [(name, attachment)]).map (·.1)).Nodup := by
  rw [List.map_append]
  exact Names.nodup_concat distinct (Names.lookup_isNone_iff.mp fresh)

theorem step (sound : bus.Sound) (moved : Step bus after) : after.Sound := by
  cases moved with
  | region settled => exact sound.store (settled_of_settle settled).1
  | @master name attachment fresh adapted =>
    refine { sound with
      mastersDistinct := concat_distinct sound.mastersDistinct fresh
      adapted := fun entry member => ?_ }
    simp only [List.append_assoc, List.mem_append, List.mem_singleton] at member
    rcases member with member | rfl | member
    · exact sound.adapted entry (List.mem_append_left _ member)
    · exact adapted
    · exact sound.adapted entry (List.mem_append_right _ member)
  | @slave name attachment fresh declared adapted =>
    refine { sound with
      slavesDistinct := concat_distinct sound.slavesDistinct fresh
      slavesDeclared := fun slave member => ?_
      adapted := fun entry member => ?_ }
    · rcases List.mem_append.mp member with member | single
      · exact sound.slavesDeclared slave member
      · rw [List.mem_singleton.mp single]
        exact RegionTable.contains_iff.mp declared
    · rw [← List.append_assoc, List.mem_append, List.mem_singleton] at member
      rcases member with member | rfl
      · exact sound.adapted entry member
      · exact adapted

theorem steps (sound : bus.Sound) (path : ReflTransGen Step bus after) : after.Sound :=
  Call.keeps_of_path (fun _ _ moved sound => step sound moved) path sound

/-- A bus without any declaration. -/
theorem empty {standard : Standard} {dataWidth addressWidth : UInt32} {timeout : Option UInt64}
    (data : dataWidth ∈ supportedDataWidths) (address : addressWidth ∈ supportedAddressWidths) :
    Sound { standard, dataWidth, addressWidth, timeout } where
  dataWidth := data
  addressWidth := address
  apart kind _ := by cases kind <;> exact .nil
  distinct := .nil
  placed kind _ member := by cases kind <;> contradiction
  fits kind _ _ member := by cases kind <;> contradiction
  uncached _ member := by contradiction
  mastersDistinct := .nil
  slavesDistinct := .nil
  slavesDeclared _ member := by contradiction
  adapted _ member := by contradiction

end Sound

theorem reserve_runs {reservations : List (String × Reservation)} :
    (reserve reservations).Runs Step bus fun _ _ => True :=
  .forM trivial fun _ _ _ _ => .forget (.discard declareRegion_runs)

theorem ofConfig_sound {config : Config} (accepted : (ofConfig config).result = .ok bus) :
    bus.Sound := by
  simp only [ofConfig, Verdict.bind_ok_iff, Verdict.require_ok_iff, Verdict.result_info,
    Call.completed_ok_iff, Verdict.result_pure, Except.ok.injEq, List.contains_iff_mem] at accepted
  obtain ⟨-, -, -, data, -, address, -, -, created, ⟨-, reserved⟩, -, -, rfl⟩ := accepted
  rw [← reserved]
  exact (Sound.empty data address).steps reserve_runs.path

/-- A declaration on a bus, as data. -/
inductive Declaration where
  | region (name : String) (region : Region)
  | master (name : Option String) (interface : Interface)
  | slave (name : Option String) (interface : Interface) (region : Option Region)

/-- A declaration answers the region as stored, or the name of a master or slave. -/
def Declaration.perform : Declaration → Call Bus (Region ⊕ String)
  | region name given => .inl <$> declareRegion name given
  | master name interface => .inr <$> attachMaster name interface
  | slave name interface window => .inr <$> attachSlave name interface window

/-- The bus that a declaration leaves, whether it succeeds or fails. -/
def leave (bus : Bus) : Declaration → Bus
  | .region name region => (declareRegion name region bus).state
  | .master name interface => (attachMaster name interface bus).state
  | .slave name interface region => (attachSlave name interface region bus).state

theorem leave_steps (declaration : Declaration) :
    ReflTransGen Step bus (bus.leave declaration) := by
  cases declaration with
  | region name region => exact declareRegion_runs.path
  | master name interface => exact attachMaster_runs.path
  | slave name interface region => exact attachSlave_runs.path

theorem Sound.leaves (sound : bus.Sound) (declarations : List Declaration) :
    (declarations.foldl leave bus).Sound :=
  sound.steps (Call.path_of_foldl (fun _ => leave_steps) declarations)

/-- The bus of an accepted configuration after some declarations, failed ones included. -/
def Reachable (bus : Bus) : Prop :=
  ∃ (config : Config) (initial : Bus) (declarations : List Declaration),
    (ofConfig config).result = .ok initial ∧ declarations.foldl leave initial = bus

theorem Reachable.sound (reachable : bus.Reachable) : bus.Sound := by
  obtain ⟨config, initial, declarations, accepted, rfl⟩ := reachable
  exact (ofConfig_sound accepted).leaves declarations

/-- A bus of any accepted configuration satisfies the invariant after any list of
declarations, each on the bus that the one before left. -/
theorem sound_of_declarations {config : Config} (accepted : (ofConfig config).result = .ok bus)
    (declarations : List Declaration) : (declarations.foldl leave bus).Sound :=
  (ofConfig_sound accepted).leaves declarations

/-- A region that overlaps a reserved one and a second slave of one name are
refused, and the bus stays sound. -/
theorem sound_of_refused_declarations :
    ∃ bus, (ofConfig { reservedRegions := .ofList [("boot", .byOrigin 0),
        ("io0", .full (Region.window 0x80000000 0x80000000))] }).result = .ok bus ∧
      (([.region "rom" (Region.fixed 0x8000 0x8000), .master none ⟨64⟩,
        .slave (some "csr") ⟨32⟩ (some { Region.unplaced 0x10000 with cached := false }),
        .slave (some "csr") ⟨32⟩ none] : List Declaration).foldl leave bus).Sound := by
  have created : ∃ bus, (ofConfig { reservedRegions := .ofList [("boot", .byOrigin 0),
        ("io0", .full (Region.window 0x80000000 0x80000000))] }).result = .ok bus := ⟨_, rfl⟩
  obtain ⟨bus, accepted⟩ := created
  exact ⟨bus, accepted, sound_of_declarations accepted _⟩

end SystemOnChip.Bus
