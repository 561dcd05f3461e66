import SystemOnChip.Proofs.Bus.Order
import SystemOnChip.Proofs.Placement.FirstFit

/-! Which regions a bus accepts, told over byte addresses: an origin that is given must be
free, and one that is missing is the least free one. Whatever is not refused for a reason
listed here is accepted, and goes behind the regions of its kind. -/
namespace SystemOnChip.Bus

variable {bus : Bus} {name : String} {given stored region : Region} {request : Placement}

namespace Sound

theorem map_spaces (sound : bus.Sound) :
    (request.spaces bus.addressWidth bus.windows).map Region.extent =
      request.extents bus.addressWidth bus.windows := by
  unfold Placement.spaces Placement.extents
  split
  · have limit : (Region.fixed 0 bus.addressLimit).extent = ⟨0, 2 ^ bus.addressWidth.toNat⟩ := by
      simp [Region.extent, Region.limit, Region.first, Region.fixed, sound.addressLimit_eq]
    exact congrArg (fun extent => [extent]) limit
  · rw [List.map_map]
    rfl

theorem searchable (sound : bus.Sound) (power : ∃ k, request.size.toNat = 2 ^ k) :
    ∀ space ∈ request.spaces bus.addressWidth bus.windows,
      request.Searchable bus.regions space := by
  intro space member
  have placed : bus.regions.IsBounded := fun entry member => by
    change entry ∈ (bus.table .bus).entries at member
    have decoded : entry.2.kind ≠ .linker := by
      rw [(sound.placed .bus entry member).1]
      decide
    exact ⟨decoded, sound.bounded (by decide) member⟩
  refine ⟨power, placed, ?_⟩
  unfold Placement.spaces at member
  split at member
  · rw [List.mem_singleton.mp member, sound.addressWidth_eq]
    exact ⟨rfl, by decide, by decide⟩
  · obtain ⟨window, listed, rfl⟩ := List.mem_map.mp member
    change window ∈ (bus.table .io).entries at listed
    exact sound.bounded (by decide) listed

theorem place_ok_iff (sound : bus.Sound) (power : ∃ k, request.size.toNat = 2 ^ k) :
    (request.place bus.addressWidth bus.windows bus.regions).result = .ok region ↔
      request.IsFirstFit bus.regions (request.extents bus.addressWidth bus.windows) region := by
  rw [← sound.map_spaces, ← Placement.searchSpaces_some_iff (sound.searchable power),
    Placement.result_place]
  split <;> simp [*]

theorem place_error_iff (sound : bus.Sound) (power : ∃ k, request.size.toNat = 2 ^ k)
    {fault : Fault} :
    (request.place bus.addressWidth bus.windows bus.regions).result = .error fault ↔
      fault = .insufficientAddressSpace request.name request.size request.cached ∧
      ∀ space ∈ request.extents bus.addressWidth bus.windows,
        request.room bus.regions space = ∅ := by
  rw [← sound.map_spaces, ← Placement.searchSpaces_none_iff (sound.searchable power),
    Placement.result_place]
  split <;> simp [*, eq_comm]

theorem place_answers_iff (sound : bus.Sound) (power : ∃ k, request.size.toNat = 2 ^ k) :
    (∃ placed, (request.place bus.addressWidth bus.windows bus.regions).result = .ok placed) ↔
      ∃ space ∈ request.extents bus.addressWidth bus.windows, ∃ origin,
        bus.regions.HasRoom space request.size.toNat origin := by
  have exhausted := Placement.searchSpaces_none_iff (sound.searchable power)
  have answers : (∃ placed,
      (request.place bus.addressWidth bus.windows bus.regions).result = .ok placed) ↔
      (request.searchSpaces bus.regions
        (request.spaces bus.addressWidth bus.windows)).1 ≠ none := by
    rw [Placement.result_place]
    split <;> simp [*]
  rw [answers, ne_eq, exhausted, sound.map_spaces]
  simp only [not_forall, exists_prop, ← Set.nonempty_iff_ne_empty, Set.Nonempty, Placement.room,
    Set.mem_ofPred_eq]

end Sound

/-- The search for an origin is exhaustive. It answers the least origin with room in the
first space that has one, among bus regions in any order and in windows that start at any
address, and it fails only if no origin has room. -/
theorem placed_as_if_exhaustive (reachable : bus.Reachable) (request : Placement)
    (power : ∃ k, request.size.toNat = 2 ^ k) :
    (∀ region, (request.place bus.addressWidth bus.windows bus.regions).result = .ok region ↔
      request.IsFirstFit bus.regions (request.extents bus.addressWidth bus.windows) region) ∧
    ∀ fault, (request.place bus.addressWidth bus.windows bus.regions).result = .error fault ↔
      fault = .insufficientAddressSpace request.name request.size request.cached ∧
      ∀ space ∈ request.extents bus.addressWidth bus.windows,
        request.room bus.regions space = ∅ :=
  ⟨fun _ => reachable.sound.place_ok_iff power, fun _ => reachable.sound.place_error_iff power⟩

/-- The first window would be filled to its last byte, and in the second one the block
behind is declared before the block in front. -/
theorem placed_behind_both_blocks : ∃ bus : Bus, bus.Reachable ∧
    (⟨"dma", 0x4000, false⟩ : Placement).IsFirstFit bus.regions
      [⟨0x80000000, 0x80004000⟩, ⟨0x90000000, 0x90010000⟩]
      { origin := some 0x90008000, size := 0x4000, mode := .readWrite, cached := false,
        kind := .bus } ∧
    (⟨"all", 0x100000000, true⟩ : Placement).room bus.regions ⟨0, 0x100000000⟩ = ∅ := by
  let config : Config := { reservedRegions := .ofList [
    ("io0", .full (Region.window 0x80000000 0x4000)),
    ("io1", .full (Region.window 0x90000000 0x10000))] }
  let declarations : List Declaration := [
    .region "behind" { Region.fixed 0x90004000 0x4000 with cached := false },
    .region "before" { Region.fixed 0x90000000 0x1000 with cached := false }]
  let dma : Placement := ⟨"dma", 0x4000, false⟩
  let all : Placement := ⟨"all", 0x100000000, true⟩
  have evaluated : (do
      let initial ← ofConfig config
      let bus := declarations.foldl leave initial
      pure ((dma.place bus.addressWidth bus.windows bus.regions).result,
        dma.extents bus.addressWidth bus.windows,
        (all.place bus.addressWidth bus.windows bus.regions).result,
        all.extents bus.addressWidth bus.windows) :
      Verdict (Except Fault Region × List Extent × Except Fault Region × List Extent)).result =
        .ok (.ok { origin := some 0x90008000, size := 0x4000, cached := false },
          [⟨0x80000000, 0x80004000⟩, ⟨0x90000000, 0x90010000⟩],
          .error (.insufficientAddressSpace "all" 0x100000000 true), [⟨0, 0x100000000⟩]) := by
    decide +kernel
  simp only [Verdict.bind_ok_iff, Verdict.result_pure, Except.ok.injEq, Prod.mk.injEq] at evaluated
  obtain ⟨initial, accepted, found, searched, failed, whole⟩ := evaluated
  have reachable : Reachable (declarations.foldl leave initial) :=
    ⟨config, initial, declarations, accepted, rfl⟩
  have first := ((placed_as_if_exhaustive reachable dma ⟨14, rfl⟩).1 _).mp found
  have full := ((placed_as_if_exhaustive reachable all ⟨32, rfl⟩).2 _).mp failed
  rw [searched] at first
  rw [whole] at full
  exact ⟨_, reachable, first, full.2 _ List.mem_cons_self⟩

/-- The bytes of a placed region are within the address space and not taken yet, and those of
an uncached bus region lie inside an io window. -/
structure Vacant (bus : Bus) (given : Region) : Prop where
  fits : given.limit ≤ 2 ^ bus.addressWidth.toNat
  apart : ∀ entry ∈ (bus.table given.kind).entries, entry.2.Apart given
  uncached : given.kind = .bus → given.cached = false →
    ∃ window ∈ bus.windows.entries, given.Inside window.2

/-- What a declaration has to satisfy. A bus region may come without an origin where one with
room is left, and software regions may lie anywhere. -/
structure Legal (bus : Bus) (name : String) (given : Region) : Prop where
  fresh : name ∉ bus.regionNames
  power : ∃ k, given.size.toNat = 2 ^ k
  aligned : ∀ origin, given.origin = some origin → given.size.toNat ∣ origin.toNat
  placed : given.origin.isSome → given.kind = .linker ∨ bus.Vacant given
  unplaced : given.origin = none → given.kind = .bus ∧
    ∃ space ∈ Placement.extents ⟨name, given.size, given.cached⟩ bus.addressWidth bus.windows,
      ∃ origin, bus.regions.HasRoom space given.size.toNat origin

/-- The stored region is the given one, with an origin in any case. -/
structure Completes (given stored : Region) : Prop where
  placed : stored.origin.isSome
  kept : given.origin.isSome → stored.origin = given.origin
  same : stored = { given with origin := stored.origin }

/-- A region was put behind the others of its kind, and nothing else has changed. -/
structure Gains (before after : Bus) (name : String) (stored : Region) : Prop where
  table : (after.table stored.kind).entries = (before.table stored.kind).entries ++ [(name, stored)]
  others : ∀ kind ≠ stored.kind, after.table kind = before.table kind
  masters : after.masters = before.masters
  slaves : after.slaves = before.slaves
  standard : after.standard = before.standard
  dataWidth : after.dataWidth = before.dataWidth
  addressWidth : after.addressWidth = before.addressWidth
  timeout : after.timeout = before.timeout

namespace Sound

theorem isUncacheable_iff (sound : bus.Sound) (placed : given.origin.isSome) :
    bus.isUncacheable given = true ↔ ∃ window ∈ bus.windows.entries, given.Inside window.2 := by
  refine ⟨inside_of_isUncacheable, fun ⟨window, listed, inside⟩ => ?_⟩
  change window ∈ (bus.table .io).entries at listed
  have bounded := sound.bounded (by decide) listed
  exact List.any_eq_true.mpr ⟨window, listed,
    Region.isWithin_of_inside inside placed bounded.origin bounded.limit_lt⟩

theorem separate_iff (sound : bus.Sound) (decoded : given.kind ≠ .linker)
    (placed : given.IsPlaced) (fits : given.limit ≤ bus.addressLimit.toNat) :
    (∀ entry ∈ (bus.table given.kind).entries, entry.2.overlaps given = false) ↔
      ∀ entry ∈ (bus.table given.kind).entries, entry.2.Apart given := by
  have bounded := placed.bounded (Nat.lt_of_le_of_lt fits bus.addressLimit.toNat_lt)
  refine forall₂_congr fun entry member => ?_
  rw [← Bool.not_eq_true, sound.overlaps_iff_meets decoded bounded member, Region.not_meets_iff]

theorem legal_of_takes (sound : bus.Sound) (placed : given.origin.isSome)
    (takes : bus.Takes [(name, given)]) : bus.Legal name given := by
  obtain ⟨fresh, legal, fits, separate, uncached⟩ := takes_singleton_iff.mp takes
  obtain ⟨power, aligned⟩ := Region.isAligned_iff.mp legal
  obtain ⟨origin, same⟩ := Option.isSome_iff_exists.mp placed
  refine ⟨fresh, power, aligned, fun _ => ?_, fun missing => ?_⟩
  · refine or_iff_not_imp_left.mpr fun decoded => ?_
    have ends := fits decoded
    refine ⟨sound.addressLimit_eq ▸ ends, ?_, fun kind notCached => ?_⟩
    · exact (sound.separate_iff decoded (Region.isPlaced_of_isAligned legal same) ends).mp separate
    · exact (sound.isUncacheable_iff placed).mp (uncached kind notCached)
  · rw [missing] at placed
    contradiction

theorem takes_of_legal (sound : bus.Sound) (placed : given.origin.isSome)
    (legal : bus.Legal name given) : bus.Takes [(name, given)] := by
  have aligned := Region.isAligned_iff.mpr ⟨legal.power, legal.aligned⟩
  obtain ⟨origin, same⟩ := Option.isSome_iff_exists.mp placed
  refine takes_singleton_iff.mpr ⟨legal.fresh, aligned, ?_⟩
  by_cases software : given.kind = .linker
  · have apart (other : Region) : other.overlaps given = false :=
      Region.not_overlaps_of_linker (.inr software)
    simp [software, apart]
  · have vacant := (legal.placed placed).resolve_left software
    have ends := vacant.fits
    rw [← sound.addressLimit_eq] at ends
    refine ⟨fun _ => ends, ?_, fun kind notCached => ?_⟩
    · have multiple := Region.isPlaced_of_isAligned aligned same
      exact (sound.separate_iff software multiple ends).mpr vacant.apart
    · exact (sound.isUncacheable_iff placed).mpr (vacant.uncached kind notCached)

theorem settles_iff_legal (sound : bus.Sound) :
    (∃ stored, (bus.settle name given).result = .ok stored) ↔ bus.Legal name given := by
  cases origin : given.origin with
  | some first =>
    have placed : given.origin.isSome := by rw [origin]; rfl
    simp only [sound.settle_ok_iff placed, exists_eq_left']
    exact ⟨sound.legal_of_takes placed, sound.takes_of_legal placed⟩
  | none =>
    constructor
    · rintro ⟨stored, settled⟩
      obtain ⟨fresh, legal, ⟨first, same, -⟩ | ⟨-, kind, placed, found, -⟩⟩ :=
        Bus.settle_ok_iff.mp settled
      · rw [origin] at same
        contradiction
      · obtain ⟨power, aligned⟩ := Region.isAligned_iff.mp legal
        have room := (sound.place_answers_iff power).mp ⟨placed, found⟩
        exact ⟨fresh, power, aligned, by simp [origin], fun _ => ⟨kind, room⟩⟩
    · intro legal
      have aligned := Region.isAligned_iff.mpr ⟨legal.power, legal.aligned⟩
      obtain ⟨kind, room⟩ := legal.unplaced origin
      obtain ⟨placed, found⟩ := (sound.place_answers_iff legal.power).mpr room
      exact ⟨_, Bus.settle_ok_iff.mpr
        ⟨legal.fresh, aligned, .inr ⟨origin, kind, placed, found, rfl⟩⟩⟩

end Sound

theorem completes_of_settle (settled : (bus.settle name given).result = .ok stored) :
    Completes given stored := by
  obtain ⟨-, -, ⟨origin, same, rfl, -⟩ | ⟨missing, kind, placed, found, rfl⟩⟩ :=
    settle_ok_iff.mp settled
  · exact ⟨by rw [same]; rfl, fun _ => rfl, rfl⟩
  · obtain ⟨-, -, chosen, rfl, -⟩ := Placement.place_sound found
    refine ⟨rfl, by simp [missing], ?_⟩
    cases given
    cases kind
    rfl

theorem gains_store : bus.Gains (bus.store name stored) name stored where
  table := by rw [table_store_entries, if_pos rfl]
  others kind other := by
    unfold store
    cases same : stored.kind <;> cases kind <;> simp_all [table]
  masters := store_masters
  slaves := store_slaves
  standard := by cases kind : stored.kind <;> simp only [store, kind]
  dataWidth := store_dataWidth
  addressWidth := store_addressWidth
  timeout := by cases kind : stored.kind <;> simp only [store, kind]

/-- A bus accepts exactly the legal regions. It stores each of them once, behind the others
of its kind, and changes nothing else. -/
theorem declared_exactly_if_legal (reachable : bus.Reachable) (name : String) (given : Region) :
    ((∃ stored, (declareRegion name given bus).result = .ok stored) ↔ bus.Legal name given) ∧
    ∀ stored, (declareRegion name given bus).result = .ok stored →
      Completes given stored ∧
      bus.Gains (declareRegion name given bus).state name stored := by
  constructor
  · simp only [result_declareRegion]
    exact reachable.sound.settles_iff_legal
  · intro stored declared
    obtain ⟨settled, after⟩ := declareRegion_runs.done stored declared
    rw [after]
    exact ⟨completes_of_settle settled, gains_store⟩

/-- Registers find a place in a window, and memory ahead of it, but no other registers are
declared up to the last byte of the window. -/
theorem declared_up_to_last_byte : ∃ (bus : Bus) (stored : Region), bus.Reachable ∧
    bus.Legal "csr" { size := 0x4000, mode := .read, cached := false } ∧
    Completes { size := 0x4000, mode := .read, cached := false } stored ∧
    bus.Gains (declareRegion "csr" { size := 0x4000, mode := .read, cached := false } bus).state
      "csr" stored ∧
    bus.Legal "sram" (Region.fixed 0x7FFF0000 0x10000) ∧
    ¬ bus.Legal "tail" { Region.fixed 0x8000C000 0x4000 with cached := false } := by
  let csr : Region := { size := 0x4000, mode := .read, cached := false }
  let sram := Region.fixed 0x7FFF0000 0x10000
  let tail : Region := { Region.fixed 0x8000C000 0x4000 with cached := false }
  have evaluated : (do
      let bus ← ofConfig { reservedRegions := .ofList [
        ("io0", .full (Region.window 0x80000000 0x10000))] }
      pure ((declareRegion "csr" csr bus).result, (declareRegion "sram" sram bus).result,
        (declareRegion "tail" tail bus).result) :
      Verdict (Except Fault Region × Except Fault Region × Except Fault Region)).result =
        .ok (.ok { csr with origin := some 0x80000000 }, .ok sram,
          .error (.uncachedOutsideWindow "tail" 0x8000C000 0x4000)) := by
    decide +kernel
  simp only [Verdict.bind_ok_iff, Verdict.result_pure, Except.ok.injEq, Prod.mk.injEq] at evaluated
  obtain ⟨bus, accepted, declared, beside, refused⟩ := evaluated
  have reachable : bus.Reachable := ⟨_, bus, [], accepted, rfl⟩
  obtain ⟨exactly, stores⟩ := declared_exactly_if_legal reachable "csr" csr
  obtain ⟨completes, gains⟩ := stores _ declared
  refine ⟨bus, _, reachable, exactly.mp ⟨_, declared⟩, completes, gains, ?_, fun legal => ?_⟩
  · exact (declared_exactly_if_legal reachable "sram" sram).1.mp ⟨_, beside⟩
  · obtain ⟨stored, succeeds⟩ := (declared_exactly_if_legal reachable "tail" tail).1.mpr legal
    rw [refused] at succeeds
    contradiction

end SystemOnChip.Bus
