import SystemOnChip.Call
import SystemOnChip.NameMap

/-! Tables of numbered locations with a fixed capacity. Names and numbers are
both unique; a name without a number gets the least free one. -/
namespace SystemOnChip

/-- `slots` binds names to locations, and `taken` lists the locations in use. -/
structure LocationTable where
  space : String
  capacity : UInt32
  slots : NameMap UInt32 := .empty
  taken : List UInt32 := []
deriving DecidableEq

namespace LocationTable

def size (table : LocationTable) : Nat := table.slots.size

def isEmpty (table : LocationTable) : Bool := table.slots.isEmpty

def get? (table : LocationTable) (name : String) : Option UInt32 := table.slots.get? name

def owner? (table : LocationTable) (slot : UInt32) : Option String :=
  (table.slots.entries.find? (·.2 == slot)).map (·.1)

def byLocation (table : LocationTable) : List (String × UInt32) :=
  table.slots.entries.mergeSort fun a b => a.2 ≤ b.2

def text (table : LocationTable) : String :=
  if table.isEmpty then ""
  else
    let rows := table.byLocation.map fun (name, slot) => s!"\n- {Text.column 20 name}: {slot}"
    s!"{table.space} Locations: ({table.size})" ++ String.join rows

/-- The least location not in use. Of one location more than are in use, one is
free, so no further one is tried. -/
def firstFree? (table : LocationTable) : Option UInt32 :=
  (List.range (min table.capacity.toNat (table.taken.length + 1))).map UInt32.ofNat |>.find?
    fun slot => !table.taken.contains slot

/-- Asks for a free location without taking it. -/
def vacancy (table : LocationTable) (name : String) : Verdict UInt32 :=
  match table.firstFree? with
  | some slot => pure slot
  | none =>
    ⟨.error (.capacityExhausted table.space table.capacity),
      [⟨.debug, s!"no free {table.space} location for {name}"⟩]⟩

/-- The location that a new name gets: the wanted one, or else a free one. -/
def choose (table : LocationTable) (name : String) (wanted : Option UInt32) : Verdict UInt32 := do
  .require (!table.slots.contains name) (.duplicateLocationName table.space name)
  match wanted with
  | none => table.vacancy name
  | some slot =>
    match table.owner? slot with
    | some owner => .fail (.duplicateLocationNumber table.space slot owner)
    | none =>
      .require (slot < table.capacity) (.locationOutOfRange table.space slot table.capacity)
      pure slot

def record (table : LocationTable) (name : String) (slot : UInt32) : LocationTable :=
  { table with slots := table.slots.insert name slot, taken := slot :: table.taken }

/-- A free location for `name`, which is not recorded. -/
def allocate (table : LocationTable) (name : String) : Verdict UInt32 :=
  (table.vacancy name).orDump table.text

/-- Assigns a location to `name`. Under `reuse` a known name keeps the location
it has, whichever is wanted. -/
def assign (name : String) (wanted : Option UInt32) (reuse : Bool) : Call LocationTable UInt32 := do
  let table ← .current
  match reuse, table.get? name with
  | true, some slot =>
    .info s!"{name} {table.space} reused at location {slot}"
    return slot
  | _, _ =>
    let slot ← .ask fun table => (table.choose name wanted).orDump table.text
    .update (·.record name slot)
    let verb := if wanted.isNone then "allocated" else "added"
    .info s!"{name} {table.space} {verb} at location {slot}"
    return slot

end LocationTable

end SystemOnChip
