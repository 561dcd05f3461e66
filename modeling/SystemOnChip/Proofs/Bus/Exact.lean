import SystemOnChip.Proofs.Bus.Selection
import SystemOnChip.Proofs.Placement.Exact

/-! Declarations on a bus and decoders of its regions in exact arithmetic. On the buses that
declarations lead to, no operation is inexact, and words decide as the integers do. -/
namespace SystemOnChip

/-- The first pair of entries that are related, by the positions of both. -/
def firstPair? (related : Region → Region → Bool) :
    List (String × Region) → Option (String × String)
  | [] => none
  | (name, region) :: rest =>
    match rest.find? fun other => related region other.2 with
    | some other => some (name, other.1)
    | none => firstPair? related rest

theorem firstPair?_overlapsExactly {entries : List (String × Region)}
    (fits : ∀ entry ∈ entries, entry.2.limit < UInt64.size) :
    firstPair? Region.overlapsExactly entries = findOverlap entries := by
  induction entries with
  | nil => rfl
  | cons entry rest ih =>
    have later (other) (member : other ∈ rest) := fits other (List.mem_cons_of_mem _ member)
    have same : rest.find? (fun other => entry.2.overlapsExactly other.2) =
        rest.find? fun other => entry.2.overlaps other.2 := by
      refine List.find?_congr fun other member => ?_
      exact Region.overlapsExactly_eq (fits entry List.mem_cons_self) (later other member)
    cases found : rest.find? fun other => entry.2.overlaps other.2 with
    | some other => simp only [firstPair?, findOverlap, same, found]
    | none => simp only [firstPair?, findOverlap, same, found, ih later]

namespace Decoder

/-- The decoder of a region, whose size has to have a power of two at or above it. -/
def ofRegionExactly (name : String) (region : Region) (dataWidth addressWidth : UInt32) :
    Verdict.Exact Decoder :=
  match region.origin with
  | none => throw (.unplacedRegion name region.kind)
  | some origin => do
    let size ← liftM (Word.nextPowerOfTwoExactly (max region.size 1))
    let mask ← liftM (Word.sub? size 1)
    if origin &&& mask ≠ 0 then throw (.unalignedDecoderRegion name origin size)
    else
      let wordShift := wordShiftOf dataWidth
      let words ← liftM (Word.shiftRight? size wordShift)
      let originWords ← liftM (Word.shiftRight? origin wordShift)
      let decodeBits ← liftM (Word.sub32? addressWidth wordShift)
      pure {
        originWords
        shift := UInt32.ofNat (Word.trailingZeros (max words 1).toNat)
        decodeBits
        wordShift }

def matchesWordExactly (decoder : Decoder) (wordAddress : UInt64) : Option Bool := do
  if (← Word.shiftRight? wordAddress decoder.decodeBits) ≠ 0 then return false
  let own ← Word.shiftRight? wordAddress decoder.shift
  let origin ← Word.shiftRight? decoder.originWords decoder.shift
  return own == origin

def claimsExactly (decoder : Decoder) (address : UInt64) : Option Bool := do
  decoder.matchesWordExactly (← Word.shiftRight? address decoder.wordShift)

variable {name : String} {region : Region} {dataWidth addressWidth : UInt32} {decoder : Decoder}
  {origin k w space : Nat}

theorem ofRegion_computedBy (small : region.size.toNat ≤ 2 ^ 63)
    (word : (wordShiftOf dataWidth).toNat < 64) (wide : wordShiftOf dataWidth ≤ addressWidth) :
    (ofRegion name region dataWidth addressWidth).ComputedBy
      (ofRegionExactly name region dataWidth addressWidth) := by
  unfold ofRegion ofRegionExactly
  cases region.origin with
  | none => rfl
  | some origin =>
    have size : (max region.size 1).toNat = max region.size.toNat 1 := Word.toNat_max _ _
    have positive : 0 < (max region.size 1).toNat := by omega
    have rounded := toNat_roundedSize small
    refine .bind_test (Word.nextPowerOfTwoExactly_eq positive (by omega)) ?_
    refine .bind_test (Word.sub?_eq_some (Word.one_le_of_power rounded)) ?_
    dsimp only
    split
    next => rfl
    next =>
      refine .bind_test (Word.shiftRight?_eq_some word) ?_
      refine .bind_test (Word.shiftRight?_eq_some word) ?_
      refine .bind_test (Word.sub32?_eq_some wide) ?_
      rfl

theorem decodes_of_built (small : region.size.toNat ≤ 2 ^ 63) (word : dataWidth.toNat = 8 * 2 ^ w)
    (wide : w ≤ addressWidth.toNat) (places : w < 64)
    (built : (ofRegion name region dataWidth addressWidth).result = .ok decoder) :
    ∃ origin, decoder.Decodes origin region.decodedBits w addressWidth.toNat := by
  obtain ⟨origin, given, aligned⟩ := aligned_of_built small built
  obtain ⟨_, again, decodes⟩ := ofRegion_decodes name given small aligned word wide places
  cases built.symm.trans again
  exact ⟨_, decodes⟩

/-- No shift of a decoder is as wide as a word. -/
theorem Decodes.claimsExactly_eq (decodes : decoder.Decodes origin k w space) (word : w < 64)
    (size : k < 64) (within : space < 64) (address : UInt64) :
    decoder.claimsExactly address = some (decoder.claims address) := by
  have wordShift : decoder.wordShift.toNat < 64 := decodes.wordShift ▸ word
  have decodeBits : decoder.decodeBits.toNat < 64 :=
    decodes.decodeBits ▸ Nat.lt_of_le_of_lt (Nat.sub_le _ _) within
  have shift : decoder.shift.toNat < 64 :=
    decodes.shift ▸ Nat.lt_of_le_of_lt (Nat.sub_le _ _) size
  rw [claimsExactly, Word.shiftRight?_eq_some wordShift, Option.bind_eq_bind, Option.bind_some,
    claims, matchesWordExactly, matchesWord, Word.shiftRight?_eq_some decodeBits,
    Word.shiftRight?_eq_some shift, Word.shiftRight?_eq_some shift, Option.bind_eq_bind,
    Option.bind_some]
  split
  next beyond => rw [beq_eq_false_iff_ne.mpr beyond, Bool.false_and, Option.pure_def]
  next below => rw [beq_iff_eq.mpr (not_ne_iff.mp below), Bool.true_and]; rfl

end Decoder

namespace Bus

/-- The region does not end beyond the address space. -/
def fitsExactly (bus : Bus) (origin size : UInt64) : Option Bool := do
  let limit ← Word.shiftLeft? 1 bus.addressWidth
  return origin.toNat + size.toNat ≤ limit.toNat

def isUncacheableExactly (bus : Bus) (region : Region) : Bool :=
  bus.windows.entries.any fun window => region.isWithinExactly window.2

def requireDisjointExactly (table : RegionTable) (name : String) (region : Region) :
    Verdict.Exact Unit :=
  match firstPair? Region.overlapsExactly (table.push name region).entries with
  | some (first, second) => throw (.regionOverlap first second)
  | none => pure ()

def requireLegalExactly (bus : Bus) (name : String) (origin : UInt64) (region : Region) :
    Verdict.Exact Unit := do
  let fits ← liftM (if region.kind == .linker then some true
    else bus.fitsExactly origin region.size)
  (Verdict.require fits
    (.outsideAddressSpace name origin region.size bus.addressWidth)).exactly
  match region.kind with
  | .linker => pure ()
  | .io => requireDisjointExactly bus.windows name region
  | .bus =>
    (Verdict.require (region.cached || bus.isUncacheableExactly region)
      (.uncachedOutsideWindow name origin region.size)).exactly
    requireDisjointExactly bus.regions name region

def settleExactly (bus : Bus) (name : String) (region : Region) : Verdict.Exact Region := do
  (Verdict.require (!(bus.regions.contains name || bus.windows.contains name ||
    bus.linkerRegions.contains name)) (.duplicateRegionName name)).exactly
  let aligned ← liftM region.isAlignedExactly
  (Verdict.require aligned (.misalignedRegion name region.origin region.size)).exactly
  match region.origin with
  | some origin =>
    bus.requireLegalExactly name origin region
    pure region
  | none =>
    (Verdict.require (region.kind == .bus) (.unplacedRegion name region.kind)).exactly
    let placement : Placement := { name, size := region.size, cached := region.cached }
    let placed ← placement.placeExactly bus.addressWidth bus.windows bus.regions
    pure { placed with mode := region.mode }

def declareRegionExactly (name : String) (region : Region) : Call.Exact Bus Region := do
  let stored ← Call.Exact.ask fun bus : Bus => bus.settleExactly name region
  (Call.update fun bus : Bus => bus.store name stored).exactly
  return stored

def attachSlaveExactly (name : Option String) (interface : Interface) (region : Option Region) :
    Call.Exact Bus String := do
  let name ← (Call.ask fun bus : Bus => (bus.chooseSlave name region).orDump bus.text).exactly
  if let some region := region then
    discard <| declareRegionExactly name region
  let attachment ← (Call.ask fun bus : Bus => bus.adapt name interface).exactly
  (Call.update fun bus : Bus =>
    { bus with slaves := bus.slaves ++ [(name, attachment)] }).exactly
  return name

def reserveExactly (reservations : List (String × Reservation)) : Call.Exact Bus Unit :=
  reservations.forM fun (name, reservation) => do
    discard <| declareRegionExactly name reservation.toRegion

def ofConfigExactly (config : Config) : Verdict.Exact Bus := do
  (Verdict.require (supportedDataWidths.contains config.dataWidth)
    (.unsupported "bus.data_width" (toString config.dataWidth))).exactly
  (Verdict.require (supportedAddressWidths.contains config.addressWidth)
    (.unsupported "bus.address_width" (toString config.addressWidth))).exactly
  (reserveExactly config.reservedRegions.entries).completed {
    standard := config.standard
    dataWidth := config.dataWidth
    addressWidth := config.addressWidth
    timeout := config.timeout }

def decoderExactly (bus : Bus) (name : String) : Verdict.Exact Decoder :=
  match bus.regions.get? name with
  | some region => Decoder.ofRegionExactly name region bus.dataWidth bus.addressWidth
  | none => throw (.unknownRegion name)

variable {bus : Bus} {name : String} {given region : Region} {origin : UInt64}

namespace Sound

theorem addressWidth_lt (sound : bus.Sound) : bus.addressWidth.toNat < 64 := by
  rw [sound.addressWidth_eq]
  decide

theorem fitsExactly_eq (sound : bus.Sound) (given : region.origin = some origin) :
    bus.fitsExactly origin region.size = some (bus.fits origin region.size) := by
  rw [fitsExactly, Word.shiftLeft?_one sound.addressWidth_lt]
  refine congrArg some (Bool.eq_iff_iff.mpr ?_)
  rw [fits_iff given, decide_eq_true_eq, Region.limit, Region.first, given]
  rfl

theorem isUncacheableExactly_eq (sound : bus.Sound) :
    bus.isUncacheableExactly region = bus.isUncacheable region := by
  rw [isUncacheableExactly, isUncacheable, List.any_eq, List.any_eq, decide_eq_decide]
  refine exists_congr fun window => and_congr_right fun member => ?_
  change window ∈ (bus.table .io).entries at member
  rw [Region.isWithinExactly_eq (sound.limit_lt (by decide) member)]

/-- A region that ends within the word range overlaps the same ones. -/
theorem requireDisjoint_computedBy (sound : bus.Sound) (kind : RegionKind)
    (decoded : kind ≠ .linker) (fits : region.limit < UInt64.size) :
    (requireDisjoint (bus.table kind) name region).ComputedBy
      (requireDisjointExactly (bus.table kind) name region) := by
  have same : firstPair? Region.overlapsExactly ((bus.table kind).push name region).entries =
      findOverlap ((bus.table kind).push name region).entries := by
    refine firstPair?_overlapsExactly fun entry member => ?_
    rcases List.mem_append.mp member with member | single
    · exact sound.limit_lt decoded member
    · rwa [List.mem_singleton.mp single]
  rw [requireDisjoint, requireDisjointExactly, same]
  cases findOverlap ((bus.table kind).push name region).entries <;> rfl

theorem requireLegal_computedBy (sound : bus.Sound) (given : region.origin = some origin) :
    (bus.requireLegal name origin region).ComputedBy
      (bus.requireLegalExactly name origin region) := by
  have fits : (if region.kind == .linker then some true
      else bus.fitsExactly origin region.size) =
        some (region.kind == .linker || bus.fits origin region.size) := by
    rw [sound.fitsExactly_eq given]
    cases region.kind <;> rfl
  refine .bind_test fits (.bind .exactly fun _ within => ?_)
  rw [Verdict.require_ok_iff, Bool.or_eq_true, beq_iff_eq, fits_iff given] at within
  -- Software regions may end beyond the words, but no end of theirs is ever compared.
  have limit (decoded : region.kind ≠ .linker) : region.limit < UInt64.size :=
    Nat.lt_of_le_of_lt (within.resolve_left decoded) bus.addressLimit.toNat_lt
  cases kind : region.kind with
  | linker => exact .pure
  | io => exact sound.requireDisjoint_computedBy .io (by decide) (limit (by simp [kind]))
  | bus =>
    rw [sound.isUncacheableExactly_eq]
    refine .bind .exactly fun _ _ => ?_
    exact sound.requireDisjoint_computedBy .bus (by decide) (limit (by simp [kind]))

theorem settle_computedBy (sound : bus.Sound) :
    (bus.settle name given).ComputedBy (bus.settleExactly name given) := by
  refine .bind .exactly fun _ _ => ?_
  refine .bind_test Region.isAlignedExactly_eq (.bind .exactly fun _ aligned => ?_)
  rw [Verdict.require_ok_iff, Region.isAligned_iff] at aligned
  cases origin : given.origin with
  | some first => exact .bind (sound.requireLegal_computedBy origin) fun _ _ => .pure
  | none =>
    refine .bind .exactly fun _ _ => .bind ?_ fun _ _ => .pure
    exact Placement.place_computedBy sound.addressWidth_lt (sound.searchable aligned.1)

theorem declareRegion_computedBy (sound : bus.Sound) :
    (declareRegion name given).ComputedBy (declareRegionExactly name given) bus := by
  refine .bind (.ask (.orDump sound.settle_computedBy)) fun stored _ => ?_
  refine .bind .exactly fun _ _ => ?_
  split <;> rfl

theorem attachSlave_computedBy (sound : bus.Sound) {wanted : Option String}
    {interface : Interface} {window : Option Region} :
    (attachSlave wanted interface window).ComputedBy
      (attachSlaveExactly wanted interface window) bus := by
  refine .bind .exactly fun answer _ => ?_
  cases window with
  | none => exact .bind .exactly fun _ _ => .bind .exactly fun _ _ => .pure
  | some region =>
    refine .bind (.map sound.declareRegion_computedBy) fun _ _ => ?_
    exact .bind .exactly fun _ _ => .bind .exactly fun _ _ => .pure

theorem decoder_computedBy (sound : bus.Sound) :
    (bus.decoder name).ComputedBy (bus.decoderExactly name) := by
  unfold decoder decoderExactly
  cases found : bus.regions.get? name with
  | none => rfl
  | some region =>
    have inside := sound.region_limit_le found
    have shift := (Decoder.wordShiftOf_spec sound.dataWidth).1
    have space := sound.addressWidth_eq
    rw [Region.limit] at inside
    refine .orDump (Decoder.ofRegion_computedBy (by omega) (by omega) ?_)
    rw [UInt32.le_iff_toNat_le, space]
    exact Nat.le_trans shift (by decide)

theorem decoder_decodes (sound : bus.Sound) {decoder : Decoder}
    (built : (bus.decoder name).result = .ok decoder) :
    ∃ origin k w, decoder.Decodes origin k w 32 ∧ k < 64 ∧ w < 64 := by
  unfold Bus.decoder at built
  split at built
  next region found =>
    have inside := sound.region_limit_le found
    obtain ⟨shift, width⟩ := Decoder.wordShiftOf_spec sound.dataWidth
    have space : bus.addressWidth.toNat = 32 := congrArg UInt32.toNat sound.addressWidth_eq
    rw [Region.limit] at inside
    rw [decoderFor, Verdict.result_orDump] at built
    obtain ⟨origin, decodes⟩ :=
      Decoder.decodes_of_built (by omega) width (by omega) (by omega) built
    rw [space] at decodes
    exact ⟨origin, _, _, decodes, Nat.lt_succ_of_le (Decoder.decodedBits_le (by omega)), by omega⟩
  next => contradiction

/-- Deciding whether an address is claimed, and telling the bytes in a word, is exact too. -/
theorem claimsExactly_of_decoder (sound : bus.Sound) {decoder : Decoder}
    (built : (bus.decoder name).result = .ok decoder) :
    (∀ address, decoder.claimsExactly address = some (decoder.claims address)) ∧
      Word.shiftLeft? 1 decoder.wordShift = some decoder.wordSize := by
  obtain ⟨origin, k, w, decodes, size, word⟩ := sound.decoder_decodes built
  have wordShift : decoder.wordShift.toNat < 64 := decodes.wordShift ▸ word
  exact ⟨decodes.claimsExactly_eq word size (by decide), Word.shiftLeft?_one wordShift⟩

end Sound

theorem ofConfig_computedBy (config : Config) :
    (ofConfig config).ComputedBy (ofConfigExactly config) := by
  refine .bind_info (.bind .exactly fun _ data => .bind .exactly fun _ address => .bind_info ?_)
  rw [Verdict.require_ok_iff, List.contains_iff_mem] at data address
  rw [← bind_pure ((reserveExactly _).completed _)]
  refine .bind (Call.ComputedBy.completed ?_) fun _ _ => .bind_info .pure
  refine .forM (Sound.empty data address) fun reservation _ middle sound => ⟨?_, ?_⟩
  · exact .map sound.declareRegion_computedBy
  · exact sound.steps (Call.Runs.discard declareRegion_runs).path

end Bus

end SystemOnChip
