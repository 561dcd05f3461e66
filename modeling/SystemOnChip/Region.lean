import SystemOnChip.Text.Layout
import SystemOnChip.Word

/-! Address ranges with their access mode, caching and kind. -/
namespace SystemOnChip

inductive AccessMode where
  | read
  | write
  | readWrite
deriving DecidableEq

def AccessMode.letters : AccessMode → String
  | .read => "r"
  | .write => "w"
  | .readWrite => "rw"

/-- The mode's letters in capitals, as tables show them. -/
def AccessMode.capitals : AccessMode → String
  | .read => "R"
  | .write => "W"
  | .readWrite => "RW"

/-- Bus regions are decoded and share no byte with each other. Io regions mark
uncached address space and share no byte with each other. Linker regions exist
for software only: they are neither decoded nor checked for overlap. -/
inductive RegionKind where
  | bus
  | io
  | linker
deriving DecidableEq

namespace RegionKind

def label : RegionKind → String
  | .bus => "Bus"
  | .io => "IO"
  | .linker => "Linker"

def checksOverlap (kind : RegionKind) : Bool := kind != .linker

def isDecoded (kind : RegionKind) : Bool := kind == .bus

end RegionKind

/-- A half-open interval of byte addresses. -/
structure Span where
  first : UInt64
  limit : UInt64
deriving DecidableEq

namespace Span

/-- Neither interval ends at or below the start of the other. -/
def overlaps (a b : Span) : Bool := a.first < b.limit && b.first < a.limit

/-- The inner interval ends strictly below the end of the outer one, so the
last byte of the outer one stays free. -/
def isWithin (inner outer : Span) : Bool := outer.first ≤ inner.first && inner.limit < outer.limit

end Span

/-- A region without an origin is still to be placed. -/
structure Region where
  origin : Option UInt64 := none
  size : UInt64 := 0
  mode : AccessMode := .readWrite
  cached : Bool := true
  kind : RegionKind := .bus
deriving DecidableEq

namespace Region

/-- A cached read-write bus region at a fixed origin. -/
def fixed (origin size : UInt64) : Region := { origin := some origin, size }

/-- A bus region that the bus places itself. -/
def unplaced (size : UInt64) : Region := { size }

/-- A window of uncached address space. -/
def window (origin size : UInt64) : Region :=
  { origin := some origin, size, cached := false, kind := .io }

def linker (origin size : UInt64) : Region := { origin := some origin, size, kind := .linker }

/-- The bytes of a placed region; an end past the last word is cut to it. -/
def span? (region : Region) : Option Span :=
  region.origin.map fun origin => ⟨origin, Word.saturatingAdd origin region.size⟩

/-- The size is a power of two, and a given origin a multiple of it. -/
def isAligned (region : Region) : Bool :=
  Word.isPowerOfTwo region.size && region.origin.all (· % region.size == 0)

/-- Two placed regions overlap where their spans do; linker regions never do. -/
def overlaps (a b : Region) : Bool :=
  a.kind.checksOverlap && b.kind.checksOverlap &&
    match a.span?, b.span? with
    | some a, some b => a.overlaps b
    | _, _ => false

def isWithin (inner outer : Region) : Bool :=
  match inner.span?, outer.span? with
  | some inner, some outer => inner.isWithin outer
  | _, _ => false

theorem overlaps_iff {a b : Region} : a.overlaps b ↔
    a.kind.checksOverlap ∧ b.kind.checksOverlap ∧
      ∃ s t, a.span? = some s ∧ b.span? = some t ∧ s.overlaps t := by
  unfold overlaps
  cases a.span? <;> cases b.span? <;> simp [and_assoc]

theorem isWithin_iff {inner outer : Region} : inner.isWithin outer ↔
    ∃ s t, inner.span? = some s ∧ outer.span? = some t ∧ s.isWithin t := by
  unfold isWithin
  cases inner.span? <;> cases outer.span? <;> simp

def text (region : Region) : String :=
  let origin := match region.origin with
    | some origin => s!"Origin: {Text.address origin}, "
    | none => ""
  let mode := region.mode.capitals
  s!"{origin}Size: {Text.address region.size}, Mode: {mode}, Cached: {region.cached}"

end Region

end SystemOnChip
