import SystemOnChip.Call
import SystemOnChip.Region.Table

/-! First-fit placement of bus regions that come without an origin. A cached
region may lie anywhere in the address space; an uncached one lies in an io
region. Where a candidate meets a placed region, the search goes on at the first
aligned address behind that region. -/
namespace SystemOnChip

structure Placement where
  name : String
  size : UInt64
  cached : Bool

namespace Placement

def candidate (request : Placement) (origin : UInt64) : Region :=
  { Region.fixed origin request.size with cached := request.cached }

/-- The first placed region in the way of a candidate, and its end. -/
def blocker? (placed : RegionTable) (candidate : Region) : Option (String × UInt64) :=
  placed.entries.findSome? fun (name, region) =>
    if region.overlaps candidate then region.span?.map fun span => (name, span.limit) else none

/-- A blocker ends above the origin of what it blocks, so that the search moves up. -/
theorem origin_lt_of_blocker? {placed : RegionTable} {request : Placement} {origin : UInt64}
    {name : String} {limit : UInt64}
    (h : blocker? placed (request.candidate origin) = some (name, limit)) :
    origin.toNat < limit.toNat := by
  obtain ⟨⟨other, region⟩, _, h⟩ := List.exists_of_findSome?_eq_some h
  simp only [Option.ite_none_right_eq_some, Option.map_eq_some_iff, Prod.mk.injEq] at h
  obtain ⟨overlap, span, placed, rfl, rfl⟩ := h
  obtain ⟨-, -, s, t, hs, ht, meet⟩ := Region.overlaps_iff.mp overlap
  cases Option.some.inj (placed.symm.trans hs)
  cases Option.some.inj ht
  simp only [Span.overlaps, Bool.and_eq_true, decide_eq_true_eq] at meet
  exact UInt64.lt_iff_toNat_lt.mp meet.2

def searchFrom (request : Placement) (placed : RegionTable) (space : Region) (origin : UInt64) :
    Option Region × List Event :=
  let candidate := request.candidate origin
  if candidate.isWithin space then
    match found : blocker? placed candidate with
    | none => (some candidate, [])
    | some (blocker, limit) =>
      let skip : Event := ⟨.debug, s!"candidate {Text.address origin} for {request.name} " ++
        s!"overlaps {blocker}, skipping to {Text.address limit}"⟩
      match aligned : Word.alignUp? limit request.size with
      | none => (none, [skip])
      | some next =>
        have : origin.toNat < next.toNat :=
          Nat.lt_of_lt_of_le (origin_lt_of_blocker? found) (Word.le_alignUp? aligned)
        let (answer, log) := searchFrom request placed space next
        (answer, skip :: log)
  else (none, [])
termination_by UInt64.size - origin.toNat
decreasing_by
  have := next.toNat_lt_size
  omega

def searchSpace (request : Placement) (placed : RegionTable) (space : Region) :
    Option Region × List Event :=
  match space.span?.bind fun span => Word.alignUp? span.first request.size with
  | none => (none, [])
  | some origin => request.searchFrom placed space origin

/-- The first answer over several spaces, with the events of all spaces tried. -/
def searchSpaces (request : Placement) (placed : RegionTable) :
    List Region → Option Region × List Event
  | [] => (none, [])
  | space :: rest =>
    match request.searchSpace placed space with
    | (some region, log) => (some region, log)
    | (none, log) =>
      let (answer, more) := request.searchSpaces placed rest
      (answer, log ++ more)

/-- The spaces that a request may be placed in, in the order they are tried. -/
def spaces (request : Placement) (addressWidth : UInt32) (windows : RegionTable) : List Region :=
  if request.cached then [Region.fixed 0 (1 <<< addressWidth.toUInt64)]
  else windows.entries.map (·.2)

/-- A free region of the requested size, which is a power of two. -/
def place (request : Placement) (addressWidth : UInt32) (windows placed : RegionTable) :
    Verdict Region :=
  let label := if request.cached then "cached" else "IO"
  let start : Event := ⟨.info,
    s!"allocating {label} region {request.name} of size {Text.address request.size}"⟩
  let (answer, log) := request.searchSpaces placed (request.spaces addressWidth windows)
  match answer with
  | some region => ⟨.ok region, start :: log⟩
  | none =>
    ⟨.error (.insufficientAddressSpace request.name request.size request.cached), start :: log⟩

end Placement

end SystemOnChip
