import SystemOnChip.Region

/-! Named regions in the order of their declaration, and the first pair of
them that overlaps. -/
namespace SystemOnChip

structure RegionTable where
  entries : List (String × Region) := []
deriving DecidableEq

namespace RegionTable

def size (table : RegionTable) : Nat := table.entries.length

def isEmpty (table : RegionTable) : Bool := table.entries.isEmpty

def get? (table : RegionTable) (name : String) : Option Region := table.entries.lookup name

def contains (table : RegionTable) (name : String) : Bool := (table.get? name).isSome

/-- Adds a region behind all others. -/
def push (table : RegionTable) (name : String) (region : Region) : RegionTable :=
  ⟨table.entries ++ [(name, region)]⟩

/-- An unplaced region comes before every placed one. -/
def originAtMost (a b : Option UInt64) : Bool :=
  match a, b with
  | none, _ => true
  | some _, none => false
  | some a, some b => a ≤ b

/-- Entries by origin; among equal origins the earlier declaration is first. -/
def byOrigin (table : RegionTable) : List (String × Region) :=
  table.entries.mergeSort fun a b => originAtMost a.2.origin b.2.origin

/-- A titled listing by origin, each row on a new line; nothing for an empty
table. -/
def text (table : RegionTable) (title : String) : String :=
  if table.isEmpty then ""
  else
    let rows := table.byOrigin.map fun (name, region) =>
      s!"\n{Text.column 20 name}: {region.text}"
    s!"\n{title} Regions: ({table.size})" ++ String.join rows

end RegionTable

/-- The first overlapping pair: pairs are ordered by the position of their
first member, then by that of their second. -/
def findOverlap : List (String × Region) → Option (String × String)
  | [] => none
  | (name, region) :: rest =>
    match rest.find? fun other => region.overlaps other.2 with
    | some other => some (name, other.1)
    | none => findOverlap rest

end SystemOnChip
