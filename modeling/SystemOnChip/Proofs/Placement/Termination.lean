import Mathlib.Data.List.Nodup
import SystemOnChip.Proofs.Bus.Acceptance

/-! The rounds of a search. Each round tries one candidate, and either ends the search or goes
on behind the first region in its way. The search moves up over aligned origins and never
meets a region twice, in whatever order regions were declared, so that it ends within one round
more than there are regions. -/
namespace SystemOnChip

namespace Placement

/-- The candidate at an origin lies in the space, and `blocker` is the first region in its way. -/
structure Meets (request : Placement) (placed : RegionTable) (space : Region) (origin : UInt64)
    (blocker : String × Region) : Prop where
  within : (request.candidate origin).isWithin space = true
  first : placed.entries.find? (·.2.overlaps (request.candidate origin)) = some blocker

def behind? (request : Placement) (region : Region) : Option UInt64 :=
  region.span?.bind fun span => Word.alignUp? span.limit request.size

/-- A round that is not the last one: the search goes on behind the region that is met. -/
structure Skips (request : Placement) (placed : RegionTable) (space : Region) (origin : UInt64)
    (blocker : String × Region) (next : UInt64) : Prop
    extends request.Meets placed space origin blocker where
  raised : request.behind? blocker.2 = some next

/-- All rounds from an origin on, with the regions that are met and the answer. In the last
round the candidate is free, or leaves the space, or has no aligned origin behind what is in
its way. -/
inductive Rounds (request : Placement) (placed : RegionTable) (space : Region) :
    UInt64 → List (String × Region) → Option Region → Prop where
  | free {origin : UInt64} (within : (request.candidate origin).isWithin space = true)
      (clear : ∀ entry ∈ placed.entries, entry.2.overlaps (request.candidate origin) = false) :
      Rounds request placed space origin [] (some (request.candidate origin))
  | outside {origin : UInt64} (beyond : (request.candidate origin).isWithin space = false) :
      Rounds request placed space origin [] none
  | exhausted {origin : UInt64} {blocker : String × Region}
      (meets : request.Meets placed space origin blocker)
      (stuck : request.behind? blocker.2 = none) :
      Rounds request placed space origin [blocker] none
  | skip {origin next : UInt64} {blocker : String × Region} {blockers : List (String × Region)}
      {answer : Option Region} (round : request.Skips placed space origin blocker next)
      (rest : Rounds request placed space next blockers answer) :
      Rounds request placed space origin (blocker :: blockers) answer

def start? (request : Placement) (space : Region) : Option UInt64 :=
  space.span?.bind fun span => Word.alignUp? span.first request.size

/-- The search of a space ends: its rounds move up over aligned origins, no region is met in two
of them, and the last one has the answer. -/
structure Terminates (request : Placement) (placed : RegionTable) (space : Region) : Prop where
  progress : ∀ origin blocker next, request.Skips placed space origin blocker next →
    origin < next ∧ request.size.toNat ∣ next.toNat ∧ blocker.2.limit ≤ next.toNat
  wellFounded : WellFounded fun next origin =>
    ∃ blocker, request.Skips placed space origin blocker next
  once : ∀ origin blockers answer, request.Rounds placed space origin blockers answer →
    (blockers.map (·.1)).Nodup ∧ ∀ met ∈ blockers, met ∈ placed.entries
  unstarted : request.start? space = none → request.searchSpace placed space = (none, [])
  ends : ∀ origin, request.start? space = some origin → ∃ blockers,
    request.Rounds placed space origin blockers (request.searchSpace placed space).1 ∧
      (request.searchSpace placed space).2.length = blockers.length ∧
      blockers.length ≤ placed.size

variable {request : Placement} {placed : RegionTable} {space : Region} {origin next : UInt64}
  {blocker : String × Region} {blockers : List (String × Region)} {answer : Option Region}

theorem blocker?_eq_some_iff {candidate : Region} {name : String} {limit : UInt64} :
    blocker? placed candidate = some (name, limit) ↔ ∃ region span,
      placed.entries.find? (·.2.overlaps candidate) = some (name, region) ∧
        region.span? = some span ∧ span.limit = limit := by
  unfold blocker?
  induction placed.entries with
  | nil => simp
  | cons entry rest ih =>
    rw [List.findSome?_cons, List.find?_cons]
    cases meets : entry.2.overlaps candidate with
    | false => simpa [meets] using ih
    | true =>
      obtain ⟨-, -, span, -, given, -⟩ := Region.overlaps_iff.mp meets
      simp [meets, given, Prod.ext_iff]

namespace Meets

theorem mem (meets : request.Meets placed space origin blocker) : blocker ∈ placed.entries :=
  List.mem_of_find?_eq_some meets.first

theorem lt_limit (meets : request.Meets placed space origin blocker) :
    origin.toNat < blocker.2.limit := by
  have overlap := List.find?_some meets.first
  obtain ⟨-, -, -, -, -, below⟩ := Region.overlaps_iff_bounds.mp overlap
  exact Nat.lt_of_lt_of_le below (Nat.min_le_left _ _)

end Meets

theorem limit_le_of_behind? {region : Region} (bounded : region.IsBounded)
    (raised : request.behind? region = some next) : region.limit ≤ next.toNat := by
  obtain ⟨span, given, raised⟩ := Option.bind_eq_some_iff.mp raised
  have ends := (Region.span?_eq_some given).2.2
  have fits := bounded.limit_lt
  have above := Word.le_alignUp? raised
  omega

theorem dvd_of_behind? {region : Region} (raised : request.behind? region = some next) :
    request.size.toNat ∣ next.toNat := by
  obtain ⟨span, -, raised⟩ := Option.bind_eq_some_iff.mp raised
  exact Word.dvd_alignUp? raised

namespace Skips

theorem limit_le (round : request.Skips placed space origin blocker next)
    (bounded : placed.IsBounded) : blocker.2.limit ≤ next.toNat :=
  limit_le_of_behind? (bounded blocker round.mem).2 round.raised

theorem rises (round : request.Skips placed space origin blocker next)
    (bounded : placed.IsBounded) : origin.toNat < next.toNat :=
  Nat.lt_of_lt_of_le round.lt_limit (round.limit_le bounded)

end Skips

/-- The rounds cannot go on for ever, as words are bounded. -/
theorem skips_wellFounded (bounded : placed.IsBounded) : WellFounded fun next origin =>
    ∃ blocker, request.Skips placed space origin blocker next := by
  refine Subrelation.wf ?_ (measure fun origin : UInt64 => UInt64.size - origin.toNat).wf
  rintro next origin ⟨blocker, round⟩
  have rises := round.rises bounded
  have below := next.toNat_lt_size
  change UInt64.size - next.toNat < UInt64.size - origin.toNat
  omega

namespace Rounds

theorem mem (rounds : request.Rounds placed space origin blockers answer) :
    ∀ met ∈ blockers, met ∈ placed.entries := by
  induction rounds with
  | free | outside => exact fun _ member => nomatch member
  | exhausted meets stuck =>
    rintro met member
    exact List.mem_singleton.mp member ▸ meets.mem
  | skip round _ ih =>
    rintro met (_ | ⟨_, member⟩)
    · exact round.mem
    · exact ih met member

theorem lt_limit (rounds : request.Rounds placed space origin blockers answer)
    (bounded : placed.IsBounded) : ∀ met ∈ blockers, origin.toNat < met.2.limit := by
  induction rounds with
  | free | outside => exact fun _ member => nomatch member
  | exhausted meets stuck =>
    rintro met member
    exact List.mem_singleton.mp member ▸ meets.lt_limit
  | skip round _ ih =>
    rintro met (_ | ⟨_, member⟩)
    · exact round.lt_limit
    · exact Nat.lt_trans (round.rises bounded) (ih met member)

/-- No region is met twice: later rounds start at or behind its end. -/
theorem nodup (rounds : request.Rounds placed space origin blockers answer)
    (bounded : placed.IsBounded) : blockers.Nodup := by
  induction rounds with
  | free | outside => exact .nil
  | exhausted => exact List.nodup_singleton _
  | skip round rest ih =>
    refine List.nodup_cons.mpr ⟨fun again => ?_, ih⟩
    exact Nat.not_lt.mpr (round.limit_le bounded) (rest.lt_limit bounded _ again)

theorem length_le (rounds : request.Rounds placed space origin blockers answer)
    (bounded : placed.IsBounded) : blockers.length ≤ placed.size :=
  (rounds.nodup bounded).length_le_of_subset rounds.mem

end Rounds

/-- The search takes these rounds, and leaves one event for each region that is met. -/
theorem searchFrom_rounds (request : Placement) (placed : RegionTable) (space : Region)
    (origin : UInt64) : ∃ blockers,
      request.Rounds placed space origin blockers (request.searchFrom placed space origin).1 ∧
      (request.searchFrom placed space origin).2.length = blockers.length := by
  fun_induction searchFrom request placed space origin with
  | case1 origin candidate within clear =>
    exact ⟨[], .free within (free_of_blocker?_eq_none clear), rfl⟩
  | case2 origin candidate within name limit blocked skip stuck =>
    obtain ⟨region, span, first, given, rfl⟩ := blocker?_eq_some_iff.mp blocked
    exact ⟨[(name, region)], .exhausted ⟨within, first⟩ (by rw [behind?, given]; exact stuck), rfl⟩
  | case3 origin candidate within name limit blocked skip next raised rises answer log same ih =>
    obtain ⟨region, span, first, given, rfl⟩ := blocker?_eq_some_iff.mp blocked
    obtain ⟨blockers, rounds, events⟩ := ih
    rw [same] at rounds events
    refine ⟨(name, region) :: blockers, .skip ⟨⟨within, first⟩, ?_⟩ rounds, by simp [events]⟩
    rw [behind?, given]
    exact raised
  | case4 origin candidate outside =>
    exact ⟨[], .outside (Bool.eq_false_iff.mpr outside), rfl⟩

theorem searchSpace_eq : request.searchSpace placed space =
    match request.start? space with
    | none => (none, [])
    | some origin => request.searchFrom placed space origin := rfl

theorem terminates (request : Placement) (space : Region) (bounded : placed.IsBounded)
    (distinct : (placed.entries.map (·.1)).Nodup) : request.Terminates placed space where
  progress origin blocker next round :=
    ⟨UInt64.lt_iff_toNat_lt.mpr (round.rises bounded), dvd_of_behind? round.raised,
      round.limit_le bounded⟩
  wellFounded := skips_wellFounded bounded
  once origin blockers answer rounds := by
    refine ⟨(rounds.nodup bounded).map_on fun a memberA b memberB same => ?_, rounds.mem⟩
    exact List.inj_on_of_nodup_map distinct (rounds.mem a memberA) (rounds.mem b memberB) same
  unstarted none := by rw [searchSpace_eq, none]
  ends origin begins := by
    obtain ⟨blockers, rounds, events⟩ := searchFrom_rounds request placed space origin
    rw [searchSpace_eq, begins]
    exact ⟨blockers, rounds, events, rounds.length_le bounded⟩

end Placement

namespace Bus

/-- The search for an origin ends in each space of a bus, and rounding up gives up only where
the least aligned origin does not fit a word. -/
theorem search_terminates {bus : Bus} (reachable : bus.Reachable) (request : Placement)
    (power : ∃ k, request.size.toNat = 2 ^ k) :
    (∀ space ∈ request.spaces bus.addressWidth bus.windows,
      request.Terminates bus.regions space) ∧
    ∀ value, Word.alignUp? value request.size = none ↔ ∃ least,
      IsLeast (Word.multiplesFrom value.toNat request.size.toNat) least ∧ UInt64.size ≤ least := by
  have sound := reachable.sound
  constructor
  · intro space searched
    have distinct : (bus.regions.entries.map (·.1)).Nodup := by
      have names := sound.distinct
      rw [regionNames, List.append_assoc, List.map_append] at names
      exact (List.nodup_append.mp names).1
    exact request.terminates space (sound.searchable power space searched).placed distinct
  · intro value
    obtain ⟨k, power⟩ := power
    exact Word.alignUp?_eq_none_iff power

/-- The region that lies last is declared first, and its end is no multiple of the size that is
asked for. -/
theorem search_ends_behind_both : ∃ bus : Bus, bus.Reachable ∧
    (∃ k, (0x4000 : UInt64).toNat = 2 ^ k) ∧
    Region.fixed 0 0x100000000 ∈
      (⟨"buf", 0x4000, true⟩ : Placement).spaces bus.addressWidth bus.windows ∧
    (⟨"buf", 0x4000, true⟩ : Placement).Terminates bus.regions (Region.fixed 0 0x100000000) ∧
    ((⟨"buf", 0x4000, true⟩ : Placement).searchSpace bus.regions
      (Region.fixed 0 0x100000000)).1 = some (Region.fixed 0xC000 0x4000) ∧
    ((⟨"buf", 0x4000, true⟩ : Placement).searchSpace bus.regions
      (Region.fixed 0 0x100000000)).2.length = 2 := by
  let buf : Placement := ⟨"buf", 0x4000, true⟩
  let declarations : List Declaration := [
    .region "high" (Region.fixed 0x8000 0x1000), .region "low" (Region.fixed 0 0x8000)]
  have evaluated : (do
      let initial ← ofConfig {}
      let bus := declarations.foldl leave initial
      pure (buf.spaces bus.addressWidth bus.windows,
        (buf.searchSpace bus.regions (Region.fixed 0 0x100000000)).1,
        (buf.searchSpace bus.regions (Region.fixed 0 0x100000000)).2.length) :
      Verdict (List Region × Option Region × Nat)).result =
        .ok ([Region.fixed 0 0x100000000], some (Region.fixed 0xC000 0x4000), 2) := by
    decide +kernel
  simp only [Verdict.bind_ok_iff, Verdict.result_pure, Except.ok.injEq, Prod.mk.injEq] at evaluated
  obtain ⟨initial, accepted, spaces, answer, events⟩ := evaluated
  have reachable : Reachable (declarations.foldl leave initial) :=
    ⟨_, initial, declarations, accepted, rfl⟩
  have searched : Region.fixed 0 0x100000000 ∈
      buf.spaces (declarations.foldl leave initial).addressWidth
        (declarations.foldl leave initial).windows := by
    rw [spaces]
    exact List.mem_cons_self
  have ends := (search_terminates reachable buf ⟨14, rfl⟩).1 _ searched
  exact ⟨_, reachable, ⟨14, rfl⟩, searched, ends, answer, events⟩

end Bus

end SystemOnChip
