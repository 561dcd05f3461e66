import SystemOnChip.Proofs.AddressMap.Routing

/-! Who answers at the addresses of a slave. A region of a bus word or more is its
slave's alone; regions smaller than a word that lie in one word all answer as the
first of their slaves, by attachment. -/
namespace SystemOnChip

theorem Region.IsPlaced.div_word {region : Region} {word address : Nat} (placed : region.IsPlaced)
    (power : ∃ w, word = 2 ^ w) (narrow : region.size.toNat < word)
    (covered : region.Covers address) : address / word = region.first / word := by
  have divides : region.size.toNat ∣ word := by
    obtain ⟨w, rfl⟩ := power
    obtain ⟨k, size⟩ := placed.power
    rw [size] at narrow ⊢
    exact Nat.pow_dvd_pow 2 (Nat.le_of_lt ((Nat.pow_lt_pow_iff_right (by decide)).mp narrow))
  obtain ⟨parts, rfl⟩ := divides
  rw [← Nat.div_div_eq_div_mul, ← Nat.div_div_eq_div_mul, placed.covers_iff.mp covered]

namespace Bus

/-- The bus regions of the two names are smaller than a word and lie in the same one. -/
def shareWord (bus : Bus) (name other : String) : Bool :=
  match bus.regions.get? name, bus.regions.get? other with
  | some a, some b => a.size.toNat < bus.wordBytes && b.size.toNat < bus.wordBytes &&
      a.first / bus.wordBytes == b.first / bus.wordBytes
  | _, _ => false

namespace Sound
variable {bus : Bus} {name other : String} {region : Region} {address : Nat}

theorem selects_of_covers (sound : bus.Sound) (found : bus.regions.get? name = some region)
    (covered : region.Covers address) : bus.selects name address = true := by
  rcases Nat.lt_or_ge region.size.toNat bus.wordBytes with narrow | large
  · have placed := sound.region_placed found
    rw [selects_of_get? found, Region.selects, beq_iff_eq, Region.block,
      Nat.max_eq_right (Nat.le_of_lt narrow)]
    exact placed.div_word ⟨_, sound.wordBytes_eq⟩ narrow covered
  · exact (sound.selects_iff_covers found large).mpr covered

theorem selects_eq_shareWord (sound : bus.Sound) (different : name ≠ other)
    (found : bus.regions.get? name = some region) (covered : region.Covers address) :
    bus.selects other address = bus.shareWord name other := by
  rcases Nat.lt_or_ge region.size.toNat bus.wordBytes with narrow | large
  · cases foundOther : bus.regions.get? other with
    | none => simp only [selects, shareWord, found, foundOther, Option.any_none]
    | some neighbour =>
      rcases Nat.lt_or_ge neighbour.size.toNat bus.wordBytes with small | wide
      · have word := (sound.region_placed found).div_word ⟨_, sound.wordBytes_eq⟩ narrow covered
        simp only [selects_of_get? foundOther, Region.selects, Region.block,
          Nat.max_eq_right (Nat.le_of_lt small), word, shareWord, found, foundOther, narrow, small,
          decide_true, Bool.true_and]
      · have apart := sound.regions_apart different found foundOther
        have elsewhere : ¬ neighbour.Covers address := fun both => apart address ⟨covered, both⟩
        rw [← sound.selects_iff_covers foundOther wide, Bool.not_eq_true] at elsewhere
        simp only [elsewhere, shareWord, found, foundOther, Nat.not_lt.mpr wide, decide_false,
          Bool.and_false, Bool.false_and]
  · rw [sound.not_selects_of_covers different found large covered, shareWord, found]
    cases bus.regions.get? other <;> simp only [Nat.not_lt.mpr large, decide_false, Bool.false_and]

end Sound

end Bus

namespace AddressMap
variable {soc : Soc} {map : AddressMap} {interconnect : BusInterconnect} {name : String}
  {ahead behind : List String} {region : Region} {address : UInt64}

theorem not_mem_ahead (sound : soc.bus.Sound)
    (decoded : Soc.SlaveDecoders soc.bus interconnect.slaves)
    (split : interconnect.slaves.map (·.1) = ahead ++ name :: behind) : name ∉ ahead := by
  have distinct := sound.slavesDistinct
  rw [← decoded.names, split, List.nodup_append] at distinct
  intro member
  exact distinct.2.2 name member name List.mem_cons_self rfl

theorem route_of_split (sound : soc.bus.Sound)
    (decoded : Soc.SlaveDecoders soc.bus interconnect.slaves)
    (split : interconnect.slaves.map (·.1) = ahead ++ name :: behind)
    (found : soc.bus.regions.get? name = some region) (covered : region.Covers address.toNat) :
    interconnect.route address = (ahead.find? (soc.bus.shareWord name)).or (some name) := by
  have fresh := not_mem_ahead sound decoded split
  -- of the other slaves an address of the region selects just those that share its word
  have others : ahead.find? (soc.bus.selects · address.toNat) =
      ahead.find? (soc.bus.shareWord name) := by
    refine List.find?_congr fun other member => ?_
    have different : name ≠ other := fun same => fresh (same ▸ member)
    exact sound.selects_eq_shareWord different found covered
  have own : soc.bus.selects name address.toNat = true := sound.selects_of_covers found covered
  rw [decoded.route_eq, ← decoded.names, split, List.find?_append, others]
  exact congrArg _ (List.find?_cons_of_pos own)

/-- Every address of a slave's region is routed to the first of the slaves attached before
it that share a bus word with it, and to the slave itself if there are none. There are
none for a region of a bus word or more. -/
theorem reached_unless_word_shared (reached : soc.Reachable)
    (finished : soc.finalize.result = .ok map) (connected : map.busInterconnect = some interconnect)
    (split : interconnect.slaves.map (·.1) = ahead ++ name :: behind) :
    ∃ region, soc.bus.regions.get? name = some region ∧
      ∀ address : UInt64, region.Covers address.toNat →
        interconnect.route address = (ahead.find? (soc.bus.shareWord name)).or (some name) ∧
        (interconnect.route address = some name ↔
          ∀ other ∈ ahead, soc.bus.shareWord name other = false) ∧
        (soc.bus.wordBytes ≤ region.size.toNat → interconnect.route address = some name) := by
  have sound := reached.sound.bus
  have decoded := decoded_of_connected sound finished connected
  have attached : name ∈ interconnect.slaves.map (·.1) := by
    rw [split]
    exact List.mem_append_right _ List.mem_cons_self
  obtain ⟨region, found⟩ := sound.slave_region (decoded.names ▸ attached)
  refine ⟨region, found, fun address covered => ?_⟩
  have routed := route_of_split sound decoded split found covered
  refine ⟨routed, ?_, fun large => ?_⟩
  · rw [routed]
    exact Names.find?_or_eq_iff (not_mem_ahead sound decoded split)
  · exact decoded.route_of_covers sound (decoded.names ▸ attached) found large covered

/-- On a bus of 64 bits the second of two regions of four bytes is taken by the first one,
while the region of a whole word behind them has its addresses for itself. -/
theorem reached_beside_shared_word : ∃ (soc : Soc) (map : AddressMap)
    (interconnect : BusInterconnect), soc.Reachable ∧ soc.finalize.result = .ok map ∧
    map.busInterconnect = some interconnect ∧
    interconnect.slaves.map (·.1) = ["low", "high", "wide"] ∧
    interconnect.route 0x47 = some "low" ∧ interconnect.route 0x4f = some "wide" := by
  have evaluated : (do
      let soc ← Soc.run { bus := { dataWidth := 64 } } [.master none ⟨64⟩,
        .ram "low" 0x40 4 .readWrite, .ram "high" 0x44 4 .readWrite, .ram "wide" 0x48 8 .read]
      let map ← soc.finalize
      pure (map.busInterconnect.map fun interconnect => interconnect.slaves.map (·.1),
        soc.bus.regions.get? "high", soc.bus.regions.get? "wide",
        soc.bus.shareWord "high" "low", soc.bus.wordBytes) :
      Verdict (Option (List String) × Option Region × Option Region × Bool × Nat)).result =
        .ok (some ["low", "high", "wide"], some (Region.fixed 0x44 4),
          some { Region.fixed 0x48 8 with mode := .read }, true, 8) := by
    decide +kernel
  simp only [Verdict.bind_ok_iff, Verdict.result_pure, Except.ok.injEq, Prod.mk.injEq,
    Option.map_eq_some_iff] at evaluated
  obtain ⟨soc, ran, map, finished, ⟨interconnect, connected, names⟩, high, wide, shared, word⟩ :=
    evaluated
  have reached := Soc.reachable_of_run ran
  refine ⟨soc, map, interconnect, reached, finished, connected, names, ?_, ?_⟩
  · have split : interconnect.slaves.map (·.1) = ["low"] ++ "high" :: ["wide"] := names
    obtain ⟨region, found, each⟩ := reached_unless_word_shared reached finished connected split
    cases Option.some.inj (high.symm.trans found)
    have routed := (each 0x47 (by decide)).1
    rwa [List.find?_cons_of_pos shared] at routed
  · have split : interconnect.slaves.map (·.1) = ["low", "high"] ++ "wide" :: [] := names
    obtain ⟨region, found, each⟩ := reached_unless_word_shared reached finished connected split
    cases Option.some.inj (wide.symm.trans found)
    exact (each 0x4f (by decide)).2.2 (by rw [word]; decide)

/-- A slave is not reached at its own address if its region shares a word with one that
is attached before it. -/
theorem not_reached_behind_shared_word : ∃ (soc : Soc) (map : AddressMap)
    (interconnect : BusInterconnect) (region : Region),
    (Soc.run {} [.master none ⟨32⟩, .ram "low" 0x40 2 .readWrite,
      .ram "high" 0x42 2 .readWrite]).result = .ok soc ∧
    soc.finalize.result = .ok map ∧ map.busInterconnect = some interconnect ∧
    "high" ∈ interconnect.slaves.map (·.1) ∧ soc.bus.regions.get? "high" = some region ∧
    region.Covers (0x42 : UInt64).toNat ∧ interconnect.route 0x42 = some "low" := by
  have evaluated : (do
      let soc ← Soc.run {} [.master none ⟨32⟩, .ram "low" 0x40 2 .readWrite,
        .ram "high" 0x42 2 .readWrite]
      let map ← soc.finalize
      pure (map.busInterconnect.map fun interconnect =>
          (interconnect.slaves.map (·.1), interconnect.route 0x42),
        soc.bus.regions.get? "high") :
      Verdict (Option (List String × Option String) × Option Region)).result =
        .ok (some (["low", "high"], some "low"), some (Region.fixed 0x42 2)) := by
    decide +kernel
  simp only [Verdict.bind_ok_iff, Verdict.result_pure, Except.ok.injEq, Prod.mk.injEq,
    Option.map_eq_some_iff] at evaluated
  obtain ⟨soc, ran, map, finished, ⟨interconnect, connected, names, routed⟩, found⟩ := evaluated
  have attached : "high" ∈ interconnect.slaves.map (·.1) := by
    rw [names]
    decide
  exact ⟨soc, map, interconnect, _, ran, finished, connected, attached, found, by decide, routed⟩

end AddressMap

end SystemOnChip
