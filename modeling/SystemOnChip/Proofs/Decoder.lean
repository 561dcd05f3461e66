import Mathlib.Order.Bounds.Defs
import SystemOnChip.Bus.Basic
import SystemOnChip.Decoder
import SystemOnChip.Proofs.Region

/-! Which regions have a decoder, and what it claims: the aligned block of addresses
that holds the region, of its own size or of a bus word if that is larger, as far as
the address space goes. -/
namespace SystemOnChip

/-- The size of the block that is claimed for a region, in bytes. -/
def Region.block (region : Region) (word : Nat) : Nat := max region.size.toNat word

/-- The exponent of the size that is decoded for a region. A region without bytes is
decoded as one byte. -/
def Region.decodedBits (region : Region) : Nat := Nat.clog 2 (max region.size.toNat 1)

/-- The size that is decoded for a region: its own, rounded up to a power of two. -/
def Region.decodedSize (region : Region) : Nat := 2 ^ region.decodedBits

namespace Decoder

variable {name : String} {region : Region} {dataWidth addressWidth : UInt32} {origin : UInt64}
  {k w space : Nat}

theorem isLeast_decodedSize (region : Region) :
    IsLeast {size | (∃ k, size = 2 ^ k) ∧ max region.size.toNat 1 ≤ size} region.decodedSize := by
  refine ⟨⟨⟨_, rfl⟩, Nat.le_pow_clog (by decide) _⟩, ?_⟩
  rintro _ ⟨⟨k, rfl⟩, holds⟩
  exact Nat.pow_le_pow_right (by decide) (Nat.clog_le_of_le_pow holds)

theorem decodedBits_le (small : region.size.toNat ≤ 2 ^ 63) : region.decodedBits ≤ 63 :=
  Nat.clog_le_of_le_pow (Nat.max_le.mpr ⟨small, Nat.one_le_two_pow⟩)

theorem decodedBits_of_power (power : region.size.toNat = 2 ^ k) : region.decodedBits = k := by
  rw [Region.decodedBits, power, Nat.max_eq_left Nat.one_le_two_pow, Nat.clog_pow 2 k (by decide)]

theorem toNat_roundedSize (small : region.size.toNat ≤ 2 ^ 63) :
    (Word.nextPowerOfTwo (max region.size 1)).toNat = 2 ^ region.decodedBits := by
  have size : (max region.size 1).toNat = max region.size.toNat 1 := Word.toNat_max _ _
  rw [Word.toNat_nextPowerOfTwo, size, Region.decodedBits]
  · rw [size]
    exact Nat.lt_of_lt_of_le Nat.zero_lt_one (Nat.le_max_right _ _)
  · rw [size]
    exact Nat.max_le.mpr ⟨small, Nat.one_le_two_pow⟩

theorem toNat_trailingZeros (small : k < 64) :
    (UInt32.ofNat (Word.trailingZeros (2 ^ k))).toNat = k := by
  rw [Word.trailingZeros_two_pow, UInt32.toNat_ofNat', Nat.mod_eq_of_lt]
  exact Nat.lt_trans small (by decide)

/-- A bus word has a power of two of bytes, whose exponent is the shift. -/
theorem toNat_wordShiftOf (word : dataWidth.toNat = 8 * 2 ^ w) :
    (wordShiftOf dataWidth).toNat = w := by
  have bytes : (dataWidth / 8).toNat = 2 ^ w := by
    rw [UInt32.toNat_div, word]
    exact Nat.mul_div_cancel_left _ (by decide)
  have some : dataWidth / 8 ≠ 0 := by
    intro none
    rw [none, UInt32.toNat_zero] at bytes
    exact Nat.ne_of_lt (Nat.two_pow_pos w) bytes
  have small : w < 64 := by
    have bound := (dataWidth / 8).toNat_lt
    rw [bytes] at bound
    exact Nat.lt_trans ((Nat.pow_lt_pow_iff_right (by decide)).mp bound) (by decide)
  rw [wordShiftOf, if_neg some, bytes, toNat_trailingZeros small]

theorem wordShiftOf_spec (supported : dataWidth ∈ Bus.supportedDataWidths) :
    (wordShiftOf dataWidth).toNat ≤ 3 ∧
      dataWidth.toNat = 8 * 2 ^ (wordShiftOf dataWidth).toNat := by
  rcases List.mem_cons.mp supported with rfl | supported
  · rw [toNat_wordShiftOf (w := 2) (by decide)]
    decide
  · rw [List.mem_singleton.mp supported, toNat_wordShiftOf (w := 3) (by decide)]
    decide

theorem two_pow_add_sub (k w : Nat) : 2 ^ (w + (k - w)) = max (2 ^ k) (2 ^ w) := by
  rcases Nat.le_total k w with below | above
  · rw [Nat.sub_eq_zero_of_le below, Nat.add_zero,
      Nat.max_eq_right (Nat.pow_le_pow_right (by decide) below)]
  · rw [Nat.add_sub_cancel' above, Nat.max_eq_left (Nat.pow_le_pow_right (by decide) above)]

theorem toNat_sizeWords {size shift : UInt64} (power : size.toNat = 2 ^ k) (same : shift.toNat = w)
    (small : w < 64) : (max (size >>> shift) 1).toNat = 2 ^ (k - w) := by
  rw [Word.toNat_max, Word.toNat_shiftRight same small, power, UInt64.toNat_one]
  rcases Nat.lt_or_ge k w with below | above
  · rw [Nat.div_eq_of_lt (Nat.pow_lt_pow_right (by decide) below),
      Nat.sub_eq_zero_of_le (Nat.le_of_lt below)]
    rfl
  · rw [Nat.pow_div above (by decide)]
    exact Nat.max_eq_left Nat.one_le_two_pow

/-- What is in the decoder of an aligned region, as natural numbers. -/
structure Decodes (decoder : Decoder) (origin k w space : Nat) : Prop where
  wordShift : decoder.wordShift.toNat = w
  originWords : decoder.originWords.toNat = origin / 2 ^ w
  shift : decoder.shift.toNat = k - w
  decodeBits : decoder.decodeBits.toNat = space - w

theorem ofRegion_decodes (name : String) (given : region.origin = some origin)
    (small : region.size.toNat ≤ 2 ^ 63) (aligned : region.decodedSize ∣ origin.toNat)
    (word : dataWidth.toNat = 8 * 2 ^ w) (wide : w ≤ addressWidth.toNat) (places : w < 64) :
    ∃ decoder, (ofRegion name region dataWidth addressWidth).result = .ok decoder ∧
      decoder.Decodes origin.toNat region.decodedBits w addressWidth.toNat := by
  have shift := toNat_wordShiftOf word
  have size := toNat_roundedSize small
  have multiple : ¬ origin &&& (Word.nextPowerOfTwo (max region.size 1) - 1) ≠ 0 := by
    rw [not_ne_iff, Word.and_pred_eq_zero_iff size, size]
    exact aligned
  have places64 := (UInt32.toNat_toUInt64 (wordShiftOf dataWidth)).trans shift
  have words := toNat_sizeWords size places64 places
  refine ⟨_, by rw [ofRegion, given]; simp only [if_neg multiple]; rfl, shift, ?_, ?_, ?_⟩
  · exact Word.toNat_shiftRight places64 places
  · dsimp only
    rw [words, toNat_trailingZeros]
    exact Nat.lt_of_le_of_lt (Nat.sub_le _ _) (Nat.lt_succ_of_le (decodedBits_le small))
  · rw [← shift]
    exact UInt32.toNat_sub_of_le _ _ (UInt32.le_iff_toNat_le.mpr (shift ▸ wide))

/-- A decoder compares the address with the origin in blocks of the region's size
or of a word, within the address space. -/
theorem Decodes.claims_iff {decoder : Decoder} (decodes : decoder.Decodes origin.toNat k w space)
    (word : w ≤ space) (size : k < 64) (within : space < 64) {address : UInt64} :
    decoder.claims address = true ↔ address.toNat < 2 ^ space ∧
      address.toNat / max (2 ^ k) (2 ^ w) = origin.toNat / max (2 ^ k) (2 ^ w) := by
  have shifted : (address >>> decoder.wordShift.toUInt64).toNat = address.toNat / 2 ^ w :=
    Word.toNat_shiftRight ((UInt32.toNat_toUInt64 _).trans decodes.wordShift) (by omega)
  have bits := (UInt32.toNat_toUInt64 decoder.decodeBits).trans decodes.decodeBits
  have shift := (UInt32.toNat_toUInt64 decoder.shift).trans decodes.shift
  simp only [claims, matchesWord, Bool.and_eq_true, beq_iff_eq, ← UInt64.toNat_inj,
    Word.toNat_shiftRight bits (by omega : space - w < 64),
    Word.toNat_shiftRight shift (by omega : k - w < 64), shifted, decodes.originWords,
    UInt64.toNat_zero, Nat.div_div_eq_div_mul, ← Nat.pow_add, two_pow_add_sub]
  rw [Nat.max_eq_left (Nat.pow_le_pow_right (by decide) word), Nat.div_eq_zero_iff_lt]
  exact Nat.two_pow_pos space

/-- What is claimed around an origin for a region of this size, in an address space that
ends at the limit. A region of a bus word or more has its own addresses and no others, a
smaller one the word that it lies in. -/
structure ClaimsBlock (decoder : Decoder) (origin size word limit : Nat) : Prop where
  block : ∀ address : UInt64, decoder.claims address = true ↔ address.toNat < limit ∧
    address.toNat / max size word = origin / max size word
  words : ∀ wordAddress address : UInt64, address.toNat = wordAddress.toNat * word →
    decoder.matchesWord wordAddress = decoder.claims address
  region : word ≤ size → ∀ address : UInt64, decoder.claims address = true ↔
    address.toNat < limit ∧ origin ≤ address.toNat ∧ address.toNat < origin + size
  oneWord : size < word → ∀ address : UInt64, decoder.claims address = true ↔
    address.toNat < limit ∧ address.toNat / word = origin / word

theorem Decodes.claimsBlock {decoder : Decoder} (decodes : decoder.Decodes origin.toNat k w space)
    (word : w ≤ space) (size : k < 64) (within : space < 64) (aligned : 2 ^ k ∣ origin.toNat) :
    decoder.ClaimsBlock origin.toNat (2 ^ k) (2 ^ w) (2 ^ space) where
  block address := decodes.claims_iff word size within
  words wordAddress address same := by
    have shifted : address >>> decoder.wordShift.toUInt64 = wordAddress := by
      have shift := (UInt32.toNat_toUInt64 decoder.wordShift).trans decodes.wordShift
      rw [← UInt64.toNat_inj, Word.toNat_shiftRight shift (by omega), same]
      exact Nat.mul_div_cancel _ (Nat.two_pow_pos w)
    rw [claims, shifted]
  region large address := by
    rw [decodes.claims_iff word size within, Nat.max_eq_left large,
      Word.div_eq_iff_of_dvd (Nat.two_pow_pos k) aligned]
  oneWord small address := by
    rw [decodes.claims_iff word size within, Nat.max_eq_right (Nat.le_of_lt small)]

theorem ofRegion_unplaced (missing : region.origin = none) :
    (ofRegion name region dataWidth addressWidth).result =
      .error (.unplacedRegion name region.kind) := by
  rw [ofRegion, missing]
  rfl

theorem ofRegion_unaligned (given : region.origin = some origin)
    (small : region.size.toNat ≤ 2 ^ 63) (other : ¬ region.decodedSize ∣ origin.toNat) :
    (ofRegion name region dataWidth addressWidth).result =
      .error (.unalignedDecoderRegion name origin (Word.nextPowerOfTwo (max region.size 1))) := by
  have size := toNat_roundedSize small
  have rest : origin &&& (Word.nextPowerOfTwo (max region.size 1) - 1) ≠ 0 := by
    rw [ne_eq, Word.and_pred_eq_zero_iff size, size]
    exact other
  rw [ofRegion, given]
  simp only [if_pos rest]
  rfl

theorem aligned_of_built {decoder : Decoder} (small : region.size.toNat ≤ 2 ^ 63)
    (built : (ofRegion name region dataWidth addressWidth).result = .ok decoder) :
    ∃ origin, region.origin = some origin ∧ region.decodedSize ∣ origin.toNat := by
  cases given : region.origin with
  | none =>
    rw [ofRegion_unplaced given] at built
    contradiction
  | some origin =>
    refine ⟨origin, rfl, Classical.byContradiction fun other => ?_⟩
    rw [ofRegion_unaligned given small other] at built
    contradiction

/-- A region has a decoder exactly if its origin is a multiple of its size, that size
rounded up to a power of two, and the decoder claims the addresses of the aligned block
around the origin. -/
theorem built_and_claims_block (small : region.size.toNat ≤ 2 ^ 63)
    (word : dataWidth.toNat = 8 * 2 ^ w) (wide : w ≤ addressWidth.toNat)
    (within : addressWidth.toNat ≤ 63) :
    IsLeast {size | (∃ k, size = 2 ^ k) ∧ max region.size.toNat 1 ≤ size} region.decodedSize ∧
    ((∃ decoder, (ofRegion name region dataWidth addressWidth).result = .ok decoder) ↔
      ∃ origin, region.origin = some origin ∧ region.decodedSize ∣ origin.toNat) ∧
    (region.origin = none → (ofRegion name region dataWidth addressWidth).result =
      .error (.unplacedRegion name region.kind)) ∧
    (∀ origin, region.origin = some origin → ¬ region.decodedSize ∣ origin.toNat →
      ∃ size : UInt64, size.toNat = region.decodedSize ∧
        (ofRegion name region dataWidth addressWidth).result =
          .error (.unalignedDecoderRegion name origin size)) ∧
    ∀ decoder origin, (ofRegion name region dataWidth addressWidth).result = .ok decoder →
      region.origin = some origin →
      decoder.ClaimsBlock origin.toNat region.decodedSize (2 ^ w) (2 ^ addressWidth.toNat) := by
  have built {origin : UInt64} (given : region.origin = some origin)
      (aligned : region.decodedSize ∣ origin.toNat) :=
    ofRegion_decodes name given small aligned word wide (by omega)
  refine ⟨isLeast_decodedSize region, ⟨?_, ?_⟩, ofRegion_unplaced, ?_, ?_⟩
  · rintro ⟨decoder, accepted⟩
    exact aligned_of_built small accepted
  · rintro ⟨origin, given, aligned⟩
    obtain ⟨decoder, accepted, -⟩ := built given aligned
    exact ⟨decoder, accepted⟩
  · intro origin given other
    exact ⟨_, toNat_roundedSize small, ofRegion_unaligned given small other⟩
  · intro decoder origin accepted given
    obtain ⟨_, same, aligned⟩ := aligned_of_built small accepted
    cases given.symm.trans same
    obtain ⟨_, again, decodes⟩ := built given aligned
    cases accepted.symm.trans again
    exact decodes.claimsBlock wide (Nat.lt_succ_of_le (decodedBits_le small))
      (Nat.lt_succ_of_le within) aligned

/-- Three bytes are decoded as four, and on a bus of 64 bits the whole word around them is
claimed, here the last one of an address space of 20 bits. -/
theorem word_claimed_for_three_bytes : ∃ decoder,
    (ofRegion "led" (Region.fixed 0xffffc 3) 64 20).result = .ok decoder ∧
    decoder.claims 0xffff8 = true ∧ decoder.claims 0x100000 = false ∧
    decoder.matchesWord 0x1ffff = true := by
  have size : (Region.fixed 0xffffc 3).decodedSize = 4 := by decide
  obtain ⟨-, accepted, -, -, claimed⟩ := @built_and_claims_block "led" (Region.fixed 0xffffc 3)
    64 20 3 (by decide) (by decide) (by decide) (by decide)
  obtain ⟨decoder, built⟩ := accepted.mpr ⟨0xffffc, rfl, by rw [size]; decide⟩
  have block := claimed decoder 0xffffc built rfl
  rw [size] at block
  have low : decoder.claims 0xffff8 = true := (block.oneWord (by decide) _).mpr (by decide)
  refine ⟨decoder, built, low, ?_, ?_⟩
  · rw [Bool.eq_false_iff]
    intro beyond
    exact absurd ((block.oneWord (by decide) _).mp beyond) (by decide)
  · exact (block.words 0x1ffff 0xffff8 (by decide)).trans low

end Decoder

end SystemOnChip
