import SystemOnChip.Proofs.Bus.Order

/-! Which regions an overlap report names. Among several pairs that share a byte it is the
first in the order of declaration, and on a bus, whose tables are free of overlap, the region
that is being declared is always one of the two. -/
namespace SystemOnChip

/-- The two regions share a byte, and neither is for software only. -/
def Region.Collides (a b : Region) : Prop := a.kind ≠ .linker ∧ b.kind ≠ .linker ∧ a.Meets b

/-- The regions at two positions of a list are related. -/
def RelatedAt (related : Region → Region → Prop) (entries : List (String × Region)) (i j : Nat) :
    Prop :=
  ∃ a b, entries[i]? = some a ∧ entries[j]? = some b ∧ related a.2 b.2

/-- The first of the pairs that are related, ordered by their first member and then by their
second one. -/
structure IsFirstPair (related : Region → Region → Prop) (entries : List (String × Region))
    (i j : Nat) : Prop where
  ordered : i < j
  holds : RelatedAt related entries i j
  least : ∀ k l, k < l → RelatedAt related entries k l → i < k ∨ i = k ∧ j ≤ l

section Lists
variable {related : Region → Region → Prop} {entry : String × Region}
  {entries rest : List (String × Region)} {i j : Nat} {first second : String}

theorem relatedAt_cons_zero : RelatedAt related (entry :: rest) 0 (j + 1) ↔
    ∃ b, rest[j]? = some b ∧ related entry.2 b.2 := by
  simp only [RelatedAt, List.getElem?_cons_zero, List.getElem?_cons_succ, Option.some.injEq,
    exists_and_left, exists_eq_left']

theorem relatedAt_cons_succ : RelatedAt related (entry :: rest) (i + 1) (j + 1) ↔
    RelatedAt related rest i j := by
  simp only [RelatedAt, List.getElem?_cons_succ]

namespace IsFirstPair

theorem of_head {other : String × Region} (hit : rest[j]? = some other)
    (holds : related entry.2 other.2)
    (passed : ∀ l < j, ∀ earlier, rest[l]? = some earlier → ¬ related entry.2 earlier.2) :
    IsFirstPair related (entry :: rest) 0 (j + 1) where
  ordered := Nat.zero_lt_succ j
  holds := relatedAt_cons_zero.mpr ⟨other, hit, holds⟩
  least k l before pair := by
    obtain ⟨l, rfl⟩ := Nat.exists_eq_add_one_of_ne_zero (Nat.ne_zero_of_lt before)
    cases k with
    | succ k => exact .inl (Nat.zero_lt_succ k)
    | zero =>
      obtain ⟨earlier, here, same⟩ := relatedAt_cons_zero.mp pair
      refine .inr ⟨rfl, Nat.succ_le_succ (Nat.le_of_not_lt fun early => ?_)⟩
      exact passed l early earlier here same

theorem of_rest (pair : IsFirstPair related rest i j)
    (passed : ∀ other ∈ rest, ¬ related entry.2 other.2) :
    IsFirstPair related (entry :: rest) (i + 1) (j + 1) where
  ordered := Nat.succ_lt_succ pair.ordered
  holds := relatedAt_cons_succ.mpr pair.holds
  least k l before other := by
    obtain ⟨l, rfl⟩ := Nat.exists_eq_add_one_of_ne_zero (Nat.ne_zero_of_lt before)
    cases k with
    | zero =>
      obtain ⟨hit, here, holds⟩ := relatedAt_cons_zero.mp other
      exact absurd holds (passed hit (List.mem_of_getElem? here))
    | succ k =>
      have least := pair.least k l (Nat.lt_of_succ_lt_succ before) (relatedAt_cons_succ.mp other)
      omega

end IsFirstPair

theorem findOverlap_names_first (found : findOverlap entries = some (first, second)) :
    ∃ i j a b, entries[i]? = some (first, a) ∧ entries[j]? = some (second, b) ∧
      IsFirstPair (fun a b => a.overlaps b = true) entries i j := by
  induction entries with
  | nil => contradiction
  | cons entry rest ih =>
    obtain ⟨name, region⟩ := entry
    rw [findOverlap] at found
    cases later : rest.find? fun other => region.overlaps other.2 with
    | some other =>
      rw [later] at found
      cases found
      obtain ⟨meets, j, inside, hit, passed⟩ := List.find?_eq_some_iff_getElem.mp later
      have listed : rest[j]? = some other := by rw [List.getElem?_eq_getElem inside, hit]
      refine ⟨0, j + 1, region, other.2, rfl, listed, .of_head listed meets ?_⟩
      intro l early earlier here
      obtain ⟨_, rfl⟩ := List.getElem?_eq_some_iff.mp here
      simpa using passed l early
    | none =>
      rw [later] at found
      rw [List.find?_eq_none] at later
      obtain ⟨i, j, a, b, atFirst, atSecond, pair⟩ := ih found
      exact ⟨i + 1, j + 1, a, b, atFirst, atSecond, pair.of_rest later⟩

theorem IsFirstPair.congr {other : Region → Region → Prop}
    (same : ∀ i j, RelatedAt related entries i j ↔ RelatedAt other entries i j)
    (pair : IsFirstPair related entries i j) : IsFirstPair other entries i j where
  ordered := pair.ordered
  holds := (same i j).mp pair.holds
  least k l before holds := pair.least k l before ((same k l).mpr holds)

theorem relatedAt_overlaps_iff (bounded : ∀ entry ∈ entries, entry.2.IsBounded) (i j : Nat) :
    RelatedAt (fun a b => a.overlaps b = true) entries i j ↔
      RelatedAt Region.Collides entries i j := by
  refine exists₂_congr fun a b => and_congr_right fun atFirst => and_congr_right fun atSecond => ?_
  have boundedA := bounded a (List.mem_of_getElem? atFirst)
  exact boundedA.overlaps_iff_meets (bounded b (List.mem_of_getElem? atSecond))

theorem RelatedAt.symm (pair : RelatedAt Region.Collides entries i j) :
    RelatedAt Region.Collides entries j i := by
  obtain ⟨a, b, atFirst, atSecond, kindA, kindB, address, covers⟩ := pair
  exact ⟨b, a, atSecond, atFirst, kindB, kindA, address, covers.symm⟩

theorem findOverlap_isSome_iff : (findOverlap entries).isSome ↔
    ∃ i j, i < j ∧ RelatedAt (fun a b => a.overlaps b = true) entries i j := by
  constructor
  · intro found
    obtain ⟨⟨first, second⟩, found⟩ := Option.isSome_iff_exists.mp found
    obtain ⟨i, j, -, -, -, -, pair⟩ := findOverlap_names_first found
    exact ⟨i, j, pair.ordered, pair.holds⟩
  · rintro ⟨i, j, before, a, b, atFirst, atSecond, meets⟩
    rw [Option.isSome_iff_ne_none, ne_eq, findOverlap_eq_none_iff, List.pairwise_iff_getElem]
    intro separate
    obtain ⟨inFirst, rfl⟩ := List.getElem?_eq_some_iff.mp atFirst
    obtain ⟨inSecond, rfl⟩ := List.getElem?_eq_some_iff.mp atSecond
    rw [separate i j inFirst inSecond before] at meets
    contradiction

/-- Behind regions that do not overlap, a new one is reported with the first that it meets. -/
theorem findOverlap_concat {name : String} {region : Region}
    (separate : entries.Pairwise fun a b => a.2.overlaps b.2 = false) :
    findOverlap (entries ++ [(name, region)]) =
      (entries.find? fun entry => entry.2.overlaps region).map fun entry => (entry.1, name) := by
  induction entries with
  | nil => rfl
  | cons entry rest ih =>
    obtain ⟨here, later⟩ := List.pairwise_cons.mp separate
    have passed : (rest.find? fun other => entry.2.overlaps other.2) = none := by
      rw [List.find?_eq_none]
      intro other member
      rw [here other member]
      exact Bool.false_ne_true
    rw [List.cons_append, findOverlap, List.find?_append, passed, Option.none_or,
      List.find?_singleton, List.find?_cons]
    cases meets : entry.2.overlaps region with
    | true => rfl
    | false => exact ih later

end Lists

namespace Bus

/-- The report names the region that is declared behind the first one of its kind, in the
order of declaration, that shares a byte with it. -/
structure Blames (bus : Bus) (name : String) (given : Region) (first second : String) : Prop where
  declared : second = name
  earliest : ∃ before taken after,
    (bus.table given.kind).entries = before ++ (first, taken) :: after ∧
    taken.Meets given ∧ ∀ earlier ∈ before, earlier.2.Apart given

variable {bus : Bus} {name first second : String} {given : Region}

theorem Sound.blames_of_settle (sound : bus.Sound)
    (failed : (bus.settle name given).result = .error (.regionOverlap first second)) :
    bus.Blames name given first second := by
  obtain ⟨aligned, decoded, ⟨origin, same, fits⟩, found⟩ := overlap_of_settle failed
  have bounded : given.IsBounded := by
    have ends := (fits_iff same).mp fits
    exact (Region.isPlaced_of_isAligned aligned same).bounded
      (Nat.lt_of_le_of_lt ends bus.addressLimit.toNat_lt)
  -- the table has no overlap of its own, so the report is about the new region
  rw [findOverlap_concat (sound.not_overlaps given.kind), Option.map_eq_some_iff] at found
  obtain ⟨⟨_, taken⟩, hit, rfl, rfl⟩ := found
  obtain ⟨meets, before, after, split, passed⟩ := List.find?_eq_some_iff_append.mp hit
  refine ⟨rfl, before, taken, after, split, ?_, fun earlier member => ?_⟩
  · exact (sound.overlaps_iff_meets decoded bounded (List.mem_of_find?_eq_some hit)).mp meets
  · have listed : earlier ∈ (bus.table given.kind).entries := by
      rw [split]
      exact List.mem_append_left _ member
    rw [← Region.not_meets_iff, ← sound.overlaps_iff_meets decoded bounded listed]
    simpa using passed earlier member

/-- Overlap is reported exactly where two regions of a list share a byte, and the report names
the first pair that does. So a bus that refuses a region for an overlap, also one of a slave,
names that region and the earliest one that is in its way. -/
theorem overlaps_reported_exactly :
    (∀ entries : List (String × Region), (∀ entry ∈ entries, entry.2.IsBounded) →
      ((findOverlap entries).isSome ↔
        ∃ i j, i ≠ j ∧ RelatedAt Region.Collides entries i j) ∧
      ∀ first second, findOverlap entries = some (first, second) →
        ∃ i j a b, entries[i]? = some (first, a) ∧ entries[j]? = some (second, b) ∧
          IsFirstPair Region.Collides entries i j) ∧
    ∀ bus : Bus, bus.Reachable →
      (∀ name given first second,
        (declareRegion name given bus).result = .error (.regionOverlap first second) →
        bus.Blames name given first second) ∧
      ∀ wanted interface window first second,
        (attachSlave wanted interface window bus).result =
          .error (.regionOverlap first second) →
        ∃ given, window = some given ∧
          bus.Blames (wanted.getD s!"slave{bus.slaves.length}") given first second := by
  refine ⟨fun entries bounded => ?_, fun bus reachable => ⟨?_, ?_⟩⟩
  · constructor
    · simp only [findOverlap_isSome_iff, relatedAt_overlaps_iff bounded]
      constructor
      · rintro ⟨i, j, before, pair⟩
        exact ⟨i, j, Nat.ne_of_lt before, pair⟩
      · rintro ⟨i, j, different, pair⟩
        rcases Nat.lt_or_gt_of_ne different with before | behind
        · exact ⟨i, j, before, pair⟩
        · exact ⟨j, i, behind, pair.symm⟩
    · intro first second found
      obtain ⟨i, j, a, b, atFirst, atSecond, pair⟩ := findOverlap_names_first found
      exact ⟨i, j, a, b, atFirst, atSecond, pair.congr (relatedAt_overlaps_iff bounded)⟩
  · intro name given first second failed
    rw [result_declareRegion] at failed
    exact reachable.sound.blames_of_settle failed
  · intro wanted interface window first second failed
    rcases attachSlave_error_iff.mp failed with refused | ⟨name, chosen, given, rfl, refused⟩
    · exact absurd refused chooseSlave_not_overlap
    · refine ⟨given, rfl, ?_⟩
      rw [← (chooseSlave_ok_iff.mp chosen).2.1]
      exact reachable.sound.blames_of_settle refused

/-- A memory reaches into two blocks, and the one behind is named, as it was declared first.
In a list of three regions the second one meets neither of the others. -/
theorem first_declared_is_named : ∃ (bus : Bus) (entries : List (String × Region)),
    bus.Reachable ∧
    bus.Blames "sram" (Region.fixed 0x8000 0x8000) "behind" "sram" ∧
    bus.Blames "slave0" (Region.fixed 0x8000 0x8000) "behind" "slave0" ∧
    entries = [("rom", Region.fixed 0 0x1000), ("ext", Region.fixed 0x6000 0x1000),
      ("ram", Region.fixed 0x800 0x4000)] ∧
    (∃ i j, i ≠ j ∧ RelatedAt Region.Collides entries i j) ∧
    ∃ i j a b, entries[i]? = some ("rom", a) ∧ entries[j]? = some ("ram", b) ∧
      IsFirstPair Region.Collides entries i j := by
  let declarations : List Declaration := [
    .region "image" (Region.linker 0x8000 0x8000), .region "behind" (Region.fixed 0xC000 0x4000),
    .region "before" (Region.fixed 0x8000 0x1000)]
  let sram := Region.fixed 0x8000 0x8000
  let entries := [("rom", Region.fixed 0 0x1000), ("ext", Region.fixed 0x6000 0x1000),
    ("ram", Region.fixed 0x800 0x4000)]
  have evaluated : (do
      let initial ← ofConfig {}
      let bus := declarations.foldl leave initial
      pure ((declareRegion "sram" sram bus).result, (attachSlave none ⟨32⟩ sram bus).result,
        s!"slave{bus.slaves.length}") :
      Verdict (Except Fault Region × Except Fault String × String)).result =
        .ok (.error (.regionOverlap "behind" "sram"), .error (.regionOverlap "behind" "slave0"),
          "slave0") := by
    decide +kernel
  simp only [Verdict.bind_ok_iff, Verdict.result_pure, Except.ok.injEq, Prod.mk.injEq] at evaluated
  obtain ⟨initial, accepted, refused, refusedSlave, numbered⟩ := evaluated
  have reachable : Reachable (declarations.foldl leave initial) :=
    ⟨_, initial, declarations, accepted, rfl⟩
  obtain ⟨reports, blames⟩ := overlaps_reported_exactly
  obtain ⟨ofRegion, ofSlave⟩ := blames _ reachable
  obtain ⟨given, same, blamed⟩ := ofSlave none ⟨32⟩ sram "behind" "slave0" refusedSlave
  cases same
  rw [numbered] at blamed
  have bounded : ∀ entry ∈ entries, entry.2.IsBounded := by
    simp only [entries, List.forall_mem_cons, List.not_mem_nil, false_implies, implies_true,
      and_true]
    exact ⟨⟨rfl, by decide, by decide⟩, ⟨rfl, by decide, by decide⟩, ⟨rfl, by decide, by decide⟩⟩
  have found : findOverlap entries = some ("rom", "ram") := by decide
  obtain ⟨whether, which⟩ := reports entries bounded
  exact ⟨_, entries, reachable, ofRegion _ _ _ _ refused, blamed, rfl,
    whether.mp (by rw [found]; rfl), which _ _ found⟩

end Bus

end SystemOnChip
