import SystemOnChip.Proofs.Bus.Soundness
import SystemOnChip.Proofs.Decoder

/-! Which addresses the slaves of a bus are selected by. A slave is selected by
the aligned block around its region, which a region smaller than a bus word
shares with its neighbours. -/
namespace SystemOnChip

namespace Region
variable {a b region : Region} {word address : Nat}

/-- The address lies in the block that is decoded for the region. -/
def selects (region : Region) (word address : Nat) : Bool :=
  address / region.block word == region.first / region.block word

theorem IsPlaced.selects_iff_covers (placed : region.IsPlaced) (large : word ≤ region.size.toNat) :
    region.selects word address = true ↔ region.Covers address := by
  rw [selects, beq_iff_eq, block, Nat.max_eq_left large, placed.covers_iff]

/-- A region of a word or more keeps its addresses for itself: a block that a
smaller region shares with neighbours is a single word. -/
theorem Apart.not_selects (apart : a.Apart b) (placedA : a.IsPlaced) (placedB : b.IsPlaced)
    (power : ∃ w, word = 2 ^ w) (large : word ≤ a.size.toNat) (covered : a.Covers address) :
    b.selects word address = false := by
  rw [Bool.eq_false_iff]
  intro selected
  rcases Nat.le_total word b.size.toNat with wide | narrow
  · exact apart address ⟨covered, (placedB.selects_iff_covers wide).mp selected⟩
  · rw [selects, beq_iff_eq, block, Nat.max_eq_right narrow] at selected
    have multiple : word ∣ a.size.toNat := by
      obtain ⟨w, rfl⟩ := power
      obtain ⟨k, size⟩ := placedA.power
      rw [size] at large ⊢
      exact Nat.pow_dvd_pow 2 ((Nat.pow_le_pow_iff_right (by decide)).mp large)
    obtain ⟨words, size⟩ := multiple
    have shared : a.Covers b.first := by
      rw [placedA.covers_iff, ← placedA.covers_iff.mp covered, size, ← Nat.div_div_eq_div_mul,
        ← Nat.div_div_eq_div_mul, selected]
    exact apart b.first ⟨shared, placedB.covers_first⟩

/-- Only addresses of an address space are selected that the block divides. -/
theorem lt_of_selects {limit : Nat} (selected : region.selects word address = true)
    (divides : region.block word ∣ limit) (inside : region.first < limit) : address < limit := by
  obtain ⟨blocks, rfl⟩ := divides
  have positive : 0 < region.block word := by
    rw [Nat.pos_iff_ne_zero]
    intro zero
    rw [zero, Nat.zero_mul] at inside
    contradiction
  rw [selects, beq_iff_eq] at selected
  have below := Nat.div_lt_of_lt_mul inside
  rw [← selected, Nat.div_lt_iff_lt_mul positive, Nat.mul_comm] at below
  exact below

end Region

namespace Bus

def wordBytes (bus : Bus) : Nat := bus.dataWidth.toNat / 8

/-- The address lies in the block that is decoded for a bus region of this name. -/
def selects (bus : Bus) (name : String) (address : Nat) : Bool :=
  (bus.regions.get? name).any fun region => region.selects bus.wordBytes address

variable {bus : Bus} {name other : String} {region : Region} {address : Nat}

theorem selects_of_get? (found : bus.regions.get? name = some region) :
    bus.selects name address = region.selects bus.wordBytes address := by
  rw [selects, found, Option.any_some]

namespace Sound

theorem region_placed (sound : bus.Sound) (found : bus.regions.get? name = some region) :
    region.IsPlaced :=
  (sound.placed .bus _ (Names.mem_of_lookup found)).2

theorem region_limit_le (sound : bus.Sound) (found : bus.regions.get? name = some region) :
    region.limit ≤ 2 ^ 32 := by
  have fits := sound.fits .bus (by decide) _ (Names.mem_of_lookup found)
  rwa [sound.addressWidth_eq] at fits

theorem regions_apart (sound : bus.Sound) {a b : Region} (different : name ≠ other)
    (foundA : bus.regions.get? name = some a) (foundB : bus.regions.get? other = some b) :
    a.Apart b :=
  have decoded : RegionKind.bus ≠ .linker := by decide
  sound.apart_of_ne decoded (Names.mem_of_lookup foundA) (Names.mem_of_lookup foundB)
    fun same => different (congrArg Prod.fst same)

theorem slave_region (sound : bus.Sound) (attached : name ∈ bus.slaves.map (·.1)) :
    ∃ region, bus.regions.get? name = some region := by
  obtain ⟨slave, member, rfl⟩ := List.mem_map.mp attached
  have declared := sound.slavesDeclared slave member
  exact Option.isSome_iff_exists.mp (Names.lookup_isSome_iff.mpr declared)

theorem wordBytes_eq (sound : bus.Sound) :
    bus.wordBytes = 2 ^ (Decoder.wordShiftOf bus.dataWidth).toNat := by
  rw [wordBytes, (Decoder.wordShiftOf_spec sound.dataWidth).2]
  exact Nat.mul_div_cancel_left _ (by decide)

theorem block_dvd (sound : bus.Sound) (found : bus.regions.get? name = some region) :
    region.block bus.wordBytes ∣ 2 ^ 32 := by
  have word := (Decoder.wordShiftOf_spec sound.dataWidth).1
  obtain ⟨k, size⟩ := (sound.region_placed found).power
  have small : 2 ^ k ≤ 2 ^ 32 := by
    rw [← size]
    exact Nat.le_trans (Nat.le_add_left _ _) (sound.region_limit_le found)
  have exponent := (Nat.pow_le_pow_iff_right (by decide)).mp small
  rw [Region.block, sound.wordBytes_eq, size, ← Decoder.two_pow_add_sub]
  exact Nat.pow_dvd_pow 2 (by omega)

theorem lt_of_selects (sound : bus.Sound) (selected : bus.selects name address = true) :
    address < 2 ^ 32 := by
  obtain ⟨region, found, selected⟩ := (Option.any_eq_true _ _).mp selected
  refine Region.lt_of_selects selected (sound.block_dvd found) ?_
  have positive := (sound.region_placed found).size_pos
  have inside := sound.region_limit_le found
  rw [Region.limit] at inside
  omega

/-- Every bus region has a decoder, which claims the addresses of its block. -/
theorem decoder_ok (sound : bus.Sound) (found : bus.regions.get? name = some region) :
    ∃ decoded, (bus.decoder name).result = .ok decoded ∧
      ∀ address : UInt64, decoded.claims address = bus.selects name address.toNat := by
  have placed := sound.region_placed found
  obtain ⟨origin, given⟩ := Option.isSome_iff_exists.mp placed.origin
  obtain ⟨k, size⟩ := placed.power
  have first : region.first = origin.toNat := by rw [Region.first, given, Option.getD_some]
  have bits := Decoder.decodedBits_of_power size
  have aligned : region.decodedSize ∣ origin.toNat := by
    rw [Region.decodedSize, bits, ← size, ← first]
    exact placed.aligned
  have inside := sound.region_limit_le found
  rw [Region.limit] at inside
  obtain ⟨shift, width⟩ := Decoder.wordShiftOf_spec sound.dataWidth
  have space : bus.addressWidth.toNat = 32 := congrArg UInt32.toNat sound.addressWidth_eq
  have wide : (Decoder.wordShiftOf bus.dataWidth).toNat ≤ bus.addressWidth.toNat := by omega
  obtain ⟨decoded, built, decodes⟩ :=
    Decoder.ofRegion_decodes name given (by omega) aligned width wide (by omega)
  refine ⟨decoded, ?_, fun address => ?_⟩
  · simp only [decoder, found, decoderFor, Verdict.result_orDump]
    exact built
  · rw [bits] at decodes
    rw [Bool.eq_iff_iff, decodes.claims_iff (by omega) (Word.exponent_lt size) (by omega), ← size,
      ← sound.wordBytes_eq, ← first, space]
    constructor
    · rintro ⟨-, same⟩
      rw [selects_of_get? found, Region.selects, beq_iff_eq]
      exact same
    · intro selected
      refine ⟨sound.lt_of_selects selected, ?_⟩
      rw [selects_of_get? found, Region.selects, beq_iff_eq] at selected
      exact selected

theorem selects_iff_covers (sound : bus.Sound) (found : bus.regions.get? name = some region)
    (large : bus.wordBytes ≤ region.size.toNat) :
    bus.selects name address = true ↔ region.Covers address := by
  rw [selects_of_get? found]
  exact (sound.region_placed found).selects_iff_covers large

/-- An address of a region of a word or more selects no other slave. -/
theorem not_selects_of_covers (sound : bus.Sound) (different : name ≠ other)
    (found : bus.regions.get? name = some region) (large : bus.wordBytes ≤ region.size.toNat)
    (covered : region.Covers address) : bus.selects other address = false := by
  cases foundOther : bus.regions.get? other with
  | none => rw [selects, foundOther, Option.any_none]
  | some neighbour =>
    rw [selects_of_get? foundOther]
    exact (sound.regions_apart different found foundOther).not_selects (sound.region_placed found)
      (sound.region_placed foundOther) ⟨_, sound.wordBytes_eq⟩ large covered

end Sound

end Bus

end SystemOnChip
