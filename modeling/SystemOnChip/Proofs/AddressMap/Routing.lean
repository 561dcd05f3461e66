import Mathlib.Data.List.Find
import SystemOnChip.Proofs.AddressMap.Finalize
import SystemOnChip.Proofs.Soc.Soundness

/-! Where the interconnect of a finished system takes an address: to the first
slave, by attachment, that the address selects. -/
namespace SystemOnChip

namespace Soc.SlaveDecoders
variable {bus : Bus} {interconnect : BusInterconnect} {name : String} {region : Region}
  {address : UInt64}

theorem route_eq (decoded : SlaveDecoders bus interconnect.slaves) :
    interconnect.route address =
      (bus.slaves.map (·.1)).find? fun name => bus.selects name address.toNat := by
  rw [BusInterconnect.route, ← decoded.names, List.find?_map]
  refine congrArg (Option.map _) (List.find?_congr ?_)
  intro slave member
  exact decoded.claims slave member address

/-- A region of a word or more is reached at each of its addresses, whichever
slaves are attached besides. -/
theorem route_of_covers (decoded : SlaveDecoders bus interconnect.slaves) (sound : bus.Sound)
    (attached : name ∈ bus.slaves.map (·.1)) (found : bus.regions.get? name = some region)
    (large : bus.wordBytes ≤ region.size.toNat) (covered : region.Covers address.toNat) :
    interconnect.route address = some name := by
  rw [decoded.route_eq]
  apply Names.find?_eq_some_of_only attached
  · exact (sound.selects_iff_covers found large).mpr covered
  · intro other _ different
    exact sound.not_selects_of_covers different found large covered

theorem route_eq_none (decoded : SlaveDecoders bus interconnect.slaves) (sound : bus.Sound)
    (beyond : 2 ^ 32 ≤ address.toNat) : interconnect.route address = none := by
  rw [decoded.route_eq, List.find?_eq_none]
  intro name _ selected
  have below := sound.lt_of_selects selected
  omega

end Soc.SlaveDecoders

namespace AddressMap
variable {soc : Soc} {map : AddressMap} {interconnect : BusInterconnect}

theorem decoded_of_connected (sound : soc.bus.Sound) (finished : soc.finalize.result = .ok map)
    (connected : map.busInterconnect = some interconnect) :
    Soc.SlaveDecoders soc.bus interconnect.slaves := by
  obtain ⟨_, _, _, _, built, -, -, -, -, rfl⟩ := Soc.finalize_ok_iff.mp finished
  obtain ⟨slaves, decoded, answered⟩ := Soc.busInterconnect_ok sound
  cases Except.ok.inj (answered.symm.trans built)
  dsimp only at connected
  split at connected
  · contradiction
  · cases connected
    exact decoded

/-- Whether every slave has a region of a word of the bus or more. -/
def Wide (bus : Bus) : Prop := ∀ name ∈ bus.slaves.map (·.1), ∀ region,
  bus.regions.get? name = some region → bus.wordBytes ≤ region.size.toNat

theorem route_eq_some_iff (sound : soc.bus.Sound) (wide : Wide soc.bus)
    (decoded : Soc.SlaveDecoders soc.bus interconnect.slaves) {address : UInt64}
    {name : String} : interconnect.route address = some name ↔
      name ∈ soc.bus.slaves.map (·.1) ∧
        ∃ region, soc.bus.regions.get? name = some region ∧ region.Covers address.toNat := by
  constructor
  · intro routed
    rw [decoded.route_eq] at routed
    have attached := List.mem_of_find?_eq_some routed
    have selected := List.find?_some routed
    obtain ⟨region, found⟩ := sound.slave_region attached
    have large := wide name attached region found
    exact ⟨attached, region, found, (sound.selects_iff_covers found large).mp selected⟩
  · rintro ⟨attached, region, found, covered⟩
    have large := wide name attached region found
    exact decoded.route_of_covers sound attached found large covered

theorem claims_apart (sound : soc.bus.Sound) (wide : Wide soc.bus)
    (decoded : Soc.SlaveDecoders soc.bus interconnect.slaves) (address : UInt64) :
    interconnect.slaves.Pairwise fun a b =>
      ¬ (a.2.claims address = true ∧ b.2.claims address = true) := by
  have distinct := sound.slavesDistinct
  rw [← decoded.names] at distinct
  refine (List.pairwise_map.mp distinct).imp_of_mem fun {a b} memberA memberB different both => ?_
  obtain ⟨claimA, claimB⟩ := both
  rw [decoded.claims a memberA] at claimA
  rw [decoded.claims b memberB] at claimB
  have attached : a.1 ∈ soc.bus.slaves.map (·.1) := decoded.names ▸ Names.mem_map_of_mem memberA
  obtain ⟨region, found⟩ := sound.slave_region attached
  have large := wide a.1 attached region found
  have covered := (sound.selects_iff_covers found large).mp claimA
  rw [sound.not_selects_of_covers different found large covered] at claimB
  contradiction

/-- An address is routed to the first slave whose block it lies in. If all slaves
have a word or more, that is the one slave whose region covers the address. -/
theorem route_exact (reached : soc.Reachable) (finished : soc.finalize.result = .ok map)
    (connected : map.busInterconnect = some interconnect) :
    (∀ name ∈ soc.bus.slaves.map (·.1), ∃ region, soc.bus.regions.get? name = some region) ∧
    (∀ address : UInt64, interconnect.route address =
      (soc.bus.slaves.map (·.1)).find? fun name => soc.bus.selects name address.toNat) ∧
    (∀ address : UInt64, 2 ^ 32 ≤ address.toNat → interconnect.route address = none) ∧
    (Wide soc.bus → ∀ address : UInt64,
      (interconnect.slaves.Pairwise fun a b =>
        ¬ (a.2.claims address = true ∧ b.2.claims address = true)) ∧
      ∀ name, interconnect.route address = some name ↔ name ∈ soc.bus.slaves.map (·.1) ∧
        ∃ region, soc.bus.regions.get? name = some region ∧ region.Covers address.toNat) := by
  have sound := reached.sound.bus
  have decoded := decoded_of_connected sound finished connected
  refine ⟨fun _ => sound.slave_region, fun _ => decoded.route_eq,
    fun _ => decoded.route_eq_none sound, fun wide address => ?_⟩
  exact ⟨claims_apart sound wide decoded address, fun _ => route_eq_some_iff sound wide decoded⟩

/-- Behind the bridge of the registers and a memory, an address of the window
reaches the registers, and none beyond 32 bits reaches anything. -/
theorem route_exact_of_bridge : ∃ (soc : Soc) (map : AddressMap) (interconnect : BusInterconnect),
    soc.Reachable ∧ soc.finalize.result = .ok map ∧ map.busInterconnect = some interconnect ∧
    interconnect.route 0xf0000900 = some "csr" ∧
    ∀ address : UInt64, 2 ^ 32 ≤ address.toNat → interconnect.route address = none := by
  have evaluated : (do
      let soc ← Soc.run Soc.windowed [.csrBridge 0xf0000000, .master none ⟨64⟩,
        .ram "sram" 0x10000000 0x1000 .readWrite, .rom "rom" 0x10000000 0x1000]
      let map ← soc.finalize
      pure (map.busInterconnect.map fun _ =>
        (soc.bus.slaves.map (·.1)).find? fun name => soc.bus.selects name 0xf0000900) :
      Verdict (Option (Option String))).result = .ok (some (some "csr")) := by
    decide +kernel
  simp only [Verdict.bind_ok_iff, Verdict.result_pure, Except.ok.injEq,
    Option.map_eq_some_iff] at evaluated
  obtain ⟨soc, ran, map, finished, interconnect, connected, selected⟩ := evaluated
  have reached := Soc.reachable_of_run ran
  obtain ⟨-, routed, beyond, -⟩ := route_exact reached finished connected
  exact ⟨soc, map, interconnect, reached, finished, connected, (routed _).trans selected, beyond⟩

end AddressMap

end SystemOnChip
