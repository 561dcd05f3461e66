import SystemOnChip.Json.Decode
import SystemOnChip.Json.Encode
import SystemOnChip.Region.Table

/-! Regions as JSON. -/
namespace SystemOnChip

namespace AccessMode

def ofLetters? : String → Option AccessMode
  | "r" => some read
  | "w" => some write
  | "rw" => some readWrite
  | _ => none

def toJson (mode : AccessMode) : Json := .str mode.letters

def ofJson (place : Json.Place) : Json → Decoded AccessMode := Json.choice place ofLetters?

end AccessMode

namespace RegionKind

def name : RegionKind → String
  | bus => "bus"
  | io => "io"
  | linker => "linker"

def ofName? : String → Option RegionKind
  | "bus" => some bus
  | "io" => some io
  | "linker" => some linker
  | _ => none

def toJson (kind : RegionKind) : Json := .str kind.name

def ofJson (place : Json.Place) : Json → Decoded RegionKind := Json.choice place ofName?

end RegionKind

namespace Region

def toJson (region : Region) : Json := .obj [
  ("origin", Json.ofOption .num region.origin),
  ("size", .num region.size),
  ("mode", region.mode.toJson),
  ("cached", .bool region.cached),
  ("kind", region.kind.toJson)]

/-- Any field of a region may be missing. -/
def record (place : Json.Place) : Record Region :=
  Region.mk <$> .withDefault "origin" (Json.optional Json.word64) none
    <*> .withDefault "size" Json.word64 0
    <*> .withDefault "mode" (AccessMode.ofJson place) .readWrite
    <*> .withDefault "cached" Json.truth true
    <*> .withDefault "kind" (RegionKind.ofJson place) .bus

def ofJson (place : Json.Place) : Json → Decoded Region := (record place).decode .lenient

end Region

/-- An object with a member for each region, in the order of declaration. -/
def RegionTable.toJson (table : RegionTable) : Json :=
  .obj (table.entries.map fun (name, region) => (name, region.toJson))

end SystemOnChip
