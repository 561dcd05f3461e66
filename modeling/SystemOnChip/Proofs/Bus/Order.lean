import SystemOnChip.Proofs.Bus.Failure
import SystemOnChip.Proofs.Bus.Soundness

/-! Placed regions declared in different orders. Whether a bus takes a list of
them depends on their order in one way only: an uncached bus region that lies in
an io window of the list comes behind that window. -/
namespace SystemOnChip.Bus

/-- Declares regions one after the other, up to the first that is refused. -/
def declareRegions (entries : List (String × Region)) : Call Bus Unit :=
  entries.forM fun (name, region) => discard <| declareRegion name region

/-- The first entry is listed somewhere before the second one. -/
def Precedes (entries : List (String × Region)) (first second : String × Region) : Prop :=
  [first, second].Sublist entries

instance (entries : List (String × Region)) (first second : String × Region) :
    Decidable (Precedes entries first second) :=
  inferInstanceAs (Decidable ([first, second].Sublist entries))

/-- The same entries, with every io window still before the uncached bus regions
that it was before. -/
structure Reorders (first second : List (String × Region)) : Prop where
  perm : first.Perm second
  windows : ∀ window ∈ first, window.2.kind = .io →
    ∀ entry ∈ first, entry.2.kind = .bus → entry.2.cached = false →
      Precedes first window entry → Precedes second window entry

/-- The io window is there when an entry of the list is declared: it is in the
bus from the start, or comes before the entry. -/
def Opens (bus : Bus) (entries : List (String × Region)) (window entry : String × Region) : Prop :=
  window ∈ bus.windows.entries ∨ window.2.kind = .io ∧ Precedes entries window entry

/-- What placed regions have to satisfy to be declared in the order of a list.
The order matters to the last condition alone. -/
structure Takes (bus : Bus) (entries : List (String × Region)) : Prop where
  fresh : ∀ entry ∈ entries, entry.1 ∉ bus.regionNames
  distinct : (entries.map (·.1)).Nodup
  aligned : ∀ entry ∈ entries, entry.2.isAligned = true
  fits : ∀ entry ∈ entries, entry.2.kind ≠ .linker → entry.2.limit ≤ bus.addressLimit.toNat
  separate : ∀ entry ∈ entries, ∀ other ∈ (bus.table entry.2.kind).entries,
    other.2.overlaps entry.2 = false
  apart : entries.Pairwise fun a b => a.2.kind = b.2.kind → a.2.overlaps b.2 = false
  uncached : ∀ entry ∈ entries, entry.2.kind = .bus → entry.2.cached = false →
    ∃ window, bus.Opens entries window entry ∧ entry.2.isWithin window.2 = true

variable {bus : Bus} {name : String} {region : Region} {entry other window : String × Region}
  {entries rest first second : List (String × Region)}

theorem precedes_cons_iff : Precedes (entry :: rest) window other ↔
    Precedes rest window other ∨ window = entry ∧ other ∈ rest := by
  rw [Precedes, List.cons_sublist_cons', List.singleton_sublist, Precedes]

theorem Precedes.mem_left (precedes : Precedes entries window other) : window ∈ entries :=
  precedes.subset List.mem_cons_self

theorem Precedes.mem_right (precedes : Precedes entries window other) : other ∈ entries :=
  precedes.subset (List.mem_cons_of_mem _ List.mem_cons_self)

theorem not_precedes_head (distinct : ((entry :: rest).map (·.1)).Nodup) :
    ¬ Precedes (entry :: rest) window entry := by
  rw [List.map_cons, List.nodup_cons] at distinct
  have once : entry ∉ rest := fun member => distinct.1 (List.mem_map_of_mem member)
  rw [precedes_cons_iff]
  rintro (later | ⟨-, member⟩)
  · exact once later.mem_right
  · exact once member

theorem store_addressLimit : (bus.store name region).addressLimit = bus.addressLimit := by
  rw [addressLimit, store_addressWidth, addressLimit]

theorem Sound.not_overlaps (sound : bus.Sound) (kind : RegionKind) :
    (bus.table kind).entries.Pairwise fun a b => a.2.overlaps b.2 = false := by
  by_cases linker : kind = .linker
  · refine List.pairwise_of_forall_mem_list fun a member b _ => ?_
    have same := (sound.placed kind a member).1.trans linker
    exact Region.not_overlaps_of_linker (.inl same)
  · refine (sound.apart kind linker).imp_of_mem fun memberA memberB apart => ?_
    exact Region.not_overlaps_of_apart apart (sound.placed kind _ memberA).2
      (sound.placed kind _ memberB).2

theorem Sound.requireDisjoint_ok_iff (sound : bus.Sound) (kind : RegionKind) :
    (requireDisjoint (bus.table kind) name region).result = .ok () ↔
      ∀ other ∈ (bus.table kind).entries, other.2.overlaps region = false := by
  refine ⟨separate_of_requireDisjoint, fun separate => ?_⟩
  -- the stored regions pass among themselves, so that only the pairs with the new one count
  rw [Bus.requireDisjoint_ok_iff, findOverlap_eq_none_iff, RegionTable.push, List.pairwise_append]
  refine ⟨sound.not_overlaps kind, List.pairwise_singleton _ _, fun other member _ single => ?_⟩
  rw [List.mem_singleton.mp single]
  exact separate other member

theorem Sound.requireLegal_ok_iff (sound : bus.Sound) {origin : UInt64}
    (given : region.origin = some origin) :
    (bus.requireLegal name origin region).result = .ok () ↔
      (region.kind ≠ .linker → region.limit ≤ bus.addressLimit.toNat) ∧
      (∀ other ∈ (bus.table region.kind).entries, other.2.overlaps region = false) ∧
      (region.kind = .bus → region.cached = false → bus.isUncacheable region = true) := by
  rw [Bus.requireLegal_ok_iff, fits_iff given]
  cases kind : region.kind with
  | bus =>
    rw [← sound.requireDisjoint_ok_iff]
    change _ ↔ _ ∧ (requireDisjoint bus.regions name region).result = .ok () ∧ _
    cases region.cached <;> simp [and_comm]
  | io =>
    rw [← sound.requireDisjoint_ok_iff]
    change _ ↔ _ ∧ (requireDisjoint bus.windows name region).result = .ok () ∧ _
    simp
  | linker => simp [Region.overlaps, kind, RegionKind.checksOverlap]

theorem Takes.isUncacheable_head (takes : bus.Takes (entry :: rest)) (kind : entry.2.kind = .bus)
    (uncached : entry.2.cached = false) : bus.isUncacheable entry.2 = true := by
  obtain ⟨window, listed | ⟨-, precedes⟩, within⟩ :=
    takes.uncached entry List.mem_cons_self kind uncached
  · exact List.any_eq_true.mpr ⟨window, listed, within⟩
  -- no window of the list comes before its first entry
  · exact absurd precedes (not_precedes_head takes.distinct)

theorem takes_singleton_iff : bus.Takes [(name, region)] ↔
    name ∉ bus.regionNames ∧ region.isAligned = true ∧
      (region.kind ≠ .linker → region.limit ≤ bus.addressLimit.toNat) ∧
      (∀ other ∈ (bus.table region.kind).entries, other.2.overlaps region = false) ∧
      (region.kind = .bus → region.cached = false → bus.isUncacheable region = true) := by
  constructor
  · intro takes
    have alone := List.mem_singleton_self (name, region)
    exact ⟨takes.fresh _ alone, takes.aligned _ alone, takes.fits _ alone, takes.separate _ alone,
      takes.isUncacheable_head⟩
  · rintro ⟨fresh, aligned, fits, separate, uncached⟩
    exact {
      fresh := List.forall_mem_singleton.mpr fresh
      distinct := List.pairwise_singleton _ _
      aligned := List.forall_mem_singleton.mpr aligned
      fits := List.forall_mem_singleton.mpr fits
      separate := List.forall_mem_singleton.mpr separate
      apart := List.pairwise_singleton _ _
      uncached := List.forall_mem_singleton.mpr fun kind notCached => by
        obtain ⟨window, listed, within⟩ := List.any_eq_true.mp (uncached kind notCached)
        exact ⟨window, .inl listed, within⟩ }

theorem Sound.settle_ok_iff (sound : bus.Sound) (placed : region.origin.isSome) {stored : Region} :
    (bus.settle name region).result = .ok stored ↔
      region = stored ∧ bus.Takes [(name, region)] := by
  obtain ⟨origin, given⟩ := Option.isSome_iff_exists.mp placed
  rw [Bus.settle_ok_iff, takes_singleton_iff, ← sound.requireLegal_ok_iff given]
  constructor
  · rintro ⟨fresh, aligned, ⟨other, same, stays, legal⟩ | ⟨unplaced, -⟩⟩
    · cases given.symm.trans same
      exact ⟨stays, fresh, aligned, legal⟩
    · rw [unplaced] at placed
      contradiction
  · rintro ⟨stays, fresh, aligned, legal⟩
    exact ⟨fresh, aligned, .inl ⟨origin, given, stays, legal⟩⟩

theorem opens_cons_iff (member : other ∈ rest) : bus.Opens (entry :: rest) window other ↔
    (bus.store entry.1 entry.2).Opens rest window other := by
  have stored : window ∈ (bus.store entry.1 entry.2).windows.entries ↔
      window ∈ bus.windows.entries ∨ entry.2.kind = .io ∧ window = entry := mem_table_store .io
  rw [Opens, Opens, stored, precedes_cons_iff, or_assoc, and_or_left]
  refine or_congr_right (or_comm.trans (or_congr_left ?_))
  constructor
  · rintro ⟨kind, rfl, -⟩
    exact ⟨kind, rfl⟩
  · rintro ⟨kind, rfl⟩
    exact ⟨kind, rfl, member⟩

theorem takes_nil : bus.Takes [] where
  fresh _ member := nomatch member
  distinct := .nil
  aligned _ member := nomatch member
  fits _ member := nomatch member
  separate _ member := nomatch member
  apart := .nil
  uncached _ member := nomatch member

namespace Takes

theorem head (takes : bus.Takes (entry :: rest)) : bus.Takes [entry] := by
  have head : entry ∈ entry :: rest := List.mem_cons_self
  exact takes_singleton_iff.mpr ⟨takes.fresh _ head, takes.aligned _ head, takes.fits _ head,
    takes.separate _ head, takes.isUncacheable_head⟩

theorem tail (takes : bus.Takes (entry :: rest)) : (bus.store entry.1 entry.2).Takes rest := by
  have later {other} (member : other ∈ rest) := List.mem_cons_of_mem entry member
  have apart := List.pairwise_cons.mp takes.apart
  have distinct := List.nodup_cons.mp takes.distinct
  exact {
    fresh := fun other member stored => by
      rcases List.mem_cons.mp (regionNames_store.mem_iff.mp stored) with same | old
      · exact distinct.1 (List.mem_map.mpr ⟨other, member, same⟩)
      · exact takes.fresh other (later member) old
    distinct := distinct.2
    aligned := fun other member => takes.aligned other (later member)
    fits := fun other member => by
      rw [store_addressLimit]
      exact takes.fits other (later member)
    separate := fun other member stored listed => by
      rcases (mem_table_store _).mp listed with listed | ⟨same, rfl⟩
      · exact takes.separate other (later member) stored listed
      · exact apart.1 other member same
    apart := apart.2
    uncached := fun other member kind uncached => by
      obtain ⟨window, opens, within⟩ := takes.uncached other (later member) kind uncached
      exact ⟨window, (opens_cons_iff member).mp opens, within⟩ }

theorem cons (first : bus.Takes [entry]) (others : (bus.store entry.1 entry.2).Takes rest) :
    bus.Takes (entry :: rest) := by
  have known {name : String} (member : name ∈ entry.1 :: bus.regionNames) :
      name ∈ (bus.store entry.1 entry.2).regionNames := regionNames_store.mem_iff.mpr member
  have alone := List.mem_singleton_self entry
  exact {
    fresh := List.forall_mem_cons.mpr ⟨first.fresh _ alone, fun other member old =>
      others.fresh other member (known (List.mem_cons_of_mem _ old))⟩
    distinct := by
      refine List.nodup_cons.mpr ⟨fun again => ?_, others.distinct⟩
      obtain ⟨other, member, same⟩ := List.mem_map.mp again
      exact others.fresh other member (same ▸ known List.mem_cons_self)
    aligned := List.forall_mem_cons.mpr ⟨first.aligned _ alone, others.aligned⟩
    fits := List.forall_mem_cons.mpr ⟨first.fits _ alone, store_addressLimit ▸ others.fits⟩
    separate := List.forall_mem_cons.mpr ⟨first.separate _ alone, fun other member stored listed =>
      others.separate other member stored ((mem_table_store _).mpr (.inl listed))⟩
    apart := List.pairwise_cons.mpr ⟨fun other member same =>
      others.separate other member entry ((mem_table_store _).mpr (.inr ⟨same, rfl⟩)),
      others.apart⟩
    uncached := by
      refine List.forall_mem_cons.mpr ⟨fun kind uncached => ?_,
        fun other member kind uncached => ?_⟩
      · have inside := first.isUncacheable_head kind uncached
        obtain ⟨window, listed, within⟩ := List.any_eq_true.mp inside
        exact ⟨window, .inl listed, within⟩
      · obtain ⟨window, opens, within⟩ := others.uncached other member kind uncached
        exact ⟨window, (opens_cons_iff member).mpr opens, within⟩ }

theorem reorder (takes : bus.Takes first) (reorders : Reorders first second) :
    bus.Takes second := by
  have member {entry} (listed : entry ∈ second) := reorders.perm.mem_iff.mpr listed
  exact {
    fresh := fun entry listed => takes.fresh entry (member listed)
    distinct := (reorders.perm.map (·.1)).nodup_iff.mp takes.distinct
    aligned := fun entry listed => takes.aligned entry (member listed)
    fits := fun entry listed => takes.fits entry (member listed)
    separate := fun entry listed => takes.separate entry (member listed)
    -- a pair may change its order, but the overlap test has none
    apart := reorders.perm.pairwise takes.apart fun {a b} separate same => by
      rw [Region.overlaps_comm]
      exact separate same.symm
    uncached := fun entry listed kind uncached => by
      obtain ⟨window, opens, within⟩ := takes.uncached entry (member listed) kind uncached
      refine ⟨window, opens.imp_right fun ⟨io, precedes⟩ => ⟨io, ?_⟩, within⟩
      exact reorders.windows window precedes.mem_left io entry (member listed) kind uncached
        precedes }

end Takes

theorem declareRegions_cons_ok_iff : (declareRegions (entry :: rest) bus).result = .ok () ↔
    ∃ stored, (bus.settle entry.1 entry.2).result = .ok stored ∧
      (declareRegions rest (bus.store entry.1 stored)).result = .ok () := by
  change ((discard (declareRegion entry.1 entry.2) >>= fun _ => declareRegions rest) bus).result =
    .ok () ↔ _
  rw [Call.bind_ok_iff]
  have runs : (discard (declareRegion entry.1 entry.2)).Runs Step bus _ :=
    .discard declareRegion_runs
  constructor
  · rintro ⟨value, declared, others⟩
    obtain ⟨stored, settled, after⟩ := runs.done value declared
    rw [after] at others
    exact ⟨stored, settled, others⟩
  · rintro ⟨stored, settled, others⟩
    have declared := Call.discard_ok_iff.mpr ⟨stored, result_declareRegion.trans settled⟩
    obtain ⟨again, same, after⟩ := runs.done () declared
    cases settled.symm.trans same
    rw [← after] at others
    exact ⟨(), declared, others⟩

namespace Sound

/-- A sound bus takes all of a list of placed regions exactly if these satisfy
the conditions of their declaration. -/
theorem declareRegions_ok_iff (sound : bus.Sound)
    (placed : ∀ entry ∈ entries, entry.2.origin.isSome) :
    (declareRegions entries bus).result = .ok () ↔ bus.Takes entries := by
  induction entries generalizing bus with
  | nil => exact iff_of_true rfl takes_nil
  | cons entry rest ih =>
    obtain ⟨here, later⟩ := List.forall_mem_cons.mp placed
    rw [declareRegions_cons_ok_iff]
    constructor
    · rintro ⟨stored, settled, others⟩
      obtain ⟨rfl, first⟩ := (sound.settle_ok_iff here).mp settled
      exact .cons first ((ih (sound.store (settled_of_settle settled).1) later).mp others)
    · intro takes
      have settled := (sound.settle_ok_iff here).mpr ⟨rfl, takes.head⟩
      exact ⟨_, settled, (ih (sound.store (settled_of_settle settled).1) later).mpr takes.tail⟩

theorem declareRegions_runs (sound : bus.Sound)
    (placed : ∀ entry ∈ entries, entry.2.origin.isSome) :
    (declareRegions entries).Runs Step bus fun _ after => ∀ kind,
      (after.table kind).entries =
        (bus.table kind).entries ++ entries.filter (·.2.kind = kind) := by
  induction entries generalizing bus with
  | nil => exact .pure fun kind => (List.append_nil _).symm
  | cons entry rest ih =>
    obtain ⟨here, later⟩ := List.forall_mem_cons.mp placed
    refine .bind (.discard declareRegion_runs) ?_
    rintro _ _ ⟨stored, settled, rfl⟩
    obtain ⟨rfl, -⟩ := (sound.settle_ok_iff here).mp settled
    have others := ih (sound.store (settled_of_settle settled).1) later
    refine others.weaken fun _ after tables kind => ?_
    rw [tables, table_store_entries, List.append_assoc, List.filter_cons]
    by_cases same : entry.2.kind = kind <;> simp [same]

theorem first_injective (sound : bus.Sound) (kind : RegionKind) (decoded : kind ≠ .linker) :
    ∀ a ∈ (bus.table kind).entries, ∀ b ∈ (bus.table kind).entries,
      a.2.first = b.2.first → a = b := by
  intro a memberA b memberB same
  by_contra different
  have apart := sound.apart_of_ne decoded memberA memberB different
  have coversA := (sound.placed kind a memberA).2.covers_first
  have coversB := (sound.placed kind b memberB).2.covers_first
  exact apart a.2.first ⟨coversA, same ▸ coversB⟩

end Sound

/-- The tables of two buses have the same entries. By ascending origin, those of bus
regions and of io windows come in the same order. -/
structure SameRegions (first second : Bus) : Prop where
  entries : ∀ kind, (first.table kind).entries.Perm (second.table kind).entries
  listed : ∀ kind, (first.table kind).ListsByOrigin (first.table kind).byOrigin
  regions : first.regions.byOrigin = second.regions.byOrigin
  windows : first.windows.byOrigin = second.windows.byOrigin

theorem Sound.sameRegions {other : Bus} (sound : bus.Sound)
    (entries : ∀ kind, (bus.table kind).entries.Perm (other.table kind).entries) :
    bus.SameRegions other where
  entries := entries
  listed kind := (bus.table kind).listsByOrigin_byOrigin
  regions := RegionTable.byOrigin_eq_of_perm (entries .bus)
    (sound.first_injective .bus (by decide))
  windows := RegionTable.byOrigin_eq_of_perm (entries .io)
    (sound.first_injective .io (by decide))

/-- A list of placed regions that can be declared as a whole can be declared in
any order that keeps io windows before the uncached regions behind them, and
leaves the same regions. -/
theorem declared_in_any_order {config : Config} {initial : Bus}
    (accepted : (ofConfig config).result = .ok initial) (history : List Declaration)
    (placed : ∀ entry ∈ first, entry.2.origin.isSome) (reorders : Reorders first second)
    (declared : (declareRegions first (history.foldl leave initial)).result = .ok ()) :
    (declareRegions second (history.foldl leave initial)).result = .ok () ∧
      (declareRegions first (history.foldl leave initial)).state.SameRegions
        (declareRegions second (history.foldl leave initial)).state := by
  have sound := (ofConfig_sound accepted).leaves history
  generalize history.foldl leave initial = bus at sound declared
  have placedToo : ∀ entry ∈ second, entry.2.origin.isSome := fun entry member =>
    placed entry (reorders.perm.mem_iff.mpr member)
  -- the conditions carry over to the other order, and then the second run succeeds by them
  have takes := (sound.declareRegions_ok_iff placed).mp declared
  have declaredToo := (sound.declareRegions_ok_iff placedToo).mpr (takes.reorder reorders)
  have runs := sound.declareRegions_runs placed
  refine ⟨declaredToo, (sound.steps runs.path).sameRegions fun kind => ?_⟩
  rw [runs.done _ declared, (sound.declareRegions_runs placedToo).done _ declaredToo]
  exact (reorders.perm.filter _).append_left _

/-- Memory moves before a window and the uncached registers in it, but the
registers do not move before the window. -/
theorem declared_behind_window : ∃ (initial bus : Bus) (window registers memory : String × Region),
    (ofConfig { reservedRegions := .ofList [("boot", .byOrigin 0)] }).result = .ok initial ∧
    bus = ([.region "rom" (Region.fixed 0x8000 0x8000), .master none ⟨64⟩] :
      List Declaration).foldl leave initial ∧
    (declareRegions [window, registers, memory] bus).result = .ok () ∧
    (declareRegions [registers, window, memory] bus).result =
      .error (.uncachedOutsideWindow "csr" 0x82000000 0x10000) ∧
    (declareRegions [memory, window, registers] bus).result = .ok () ∧
    (declareRegions [window, registers, memory] bus).state.SameRegions
      (declareRegions [memory, window, registers] bus).state := by
  let window : String × Region := ("io0", Region.window 0x80000000 0x80000000)
  let registers : String × Region :=
    ("csr", { Region.fixed 0x82000000 0x10000 with cached := false })
  let memory : String × Region := ("sram", Region.fixed 0x10000000 0x2000)
  have evaluated : (do
      let initial ← ofConfig { reservedRegions := .ofList [("boot", .byOrigin 0)] }
      let bus := ([.region "rom" (Region.fixed 0x8000 0x8000), .master none ⟨64⟩] :
        List Declaration).foldl leave initial
      pure ((declareRegions [window, registers, memory] bus).result,
        (declareRegions [registers, window, memory] bus).result) :
      Verdict (Except Fault Unit × Except Fault Unit)).result =
        .ok (.ok (), .error (.uncachedOutsideWindow "csr" 0x82000000 0x10000)) := by
    decide +kernel
  simp only [Verdict.bind_ok_iff, Verdict.result_pure, Except.ok.injEq, Prod.mk.injEq] at evaluated
  obtain ⟨initial, accepted, declared, refused⟩ := evaluated
  have placed : ∀ entry ∈ [window, registers, memory], entry.2.origin.isSome := by decide
  have reorders : Reorders [window, registers, memory] [memory, window, registers] :=
    ⟨by decide, by decide⟩
  obtain ⟨again, same⟩ := declared_in_any_order accepted _ placed reorders declared
  exact ⟨initial, _, window, registers, memory, accepted, rfl, declared, refused, again, same⟩

end SystemOnChip.Bus
