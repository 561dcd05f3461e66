import SystemOnChip.Fault
import SystemOnChip.Json.Basic
import SystemOnChip.NameMap

/-! Decoding JSON values. Members are judged in the order of the text, so that
of several faults the first one in the text is reported. -/
namespace SystemOnChip

inductive DecodeError where
  | unexpected (wanted : String)
  | missing (field : String)
  | repeated (field : String)
  | unknown (field : String)
  | excess
  | trailing
  | refused (fault : Fault)
deriving DecidableEq

/-- The outcome of decoding. -/
abbrev Decoded (α : Type) : Type := Except DecodeError α

namespace Json
variable {α β : Type}

def word64 : Json → Decoded UInt64
  | num value => .ok value
  | _ => .error (.unexpected "64-bit word")

def word32 : Json → Decoded UInt32
  | num value =>
    if value.toNat < UInt32.size then .ok value.toUInt32 else .error (.unexpected "32-bit word")
  | _ => .error (.unexpected "32-bit word")

def text : Json → Decoded String
  | str value => .ok value
  | _ => .error (.unexpected "string")

def truth : Json → Decoded Bool
  | bool value => .ok value
  | _ => .error (.unexpected "truth value")

/-- Null stands for an absent value. -/
def optional (decode : Json → Decoded α) : Json → Decoded (Option α)
  | null => .ok none
  | json => some <$> decode json

def items (decode : Json → Decoded α) : Json → Decoded (List α)
  | arr items => items.mapM decode
  | _ => .error (.unexpected "array")

def pair (first : Json → Decoded α) (second : Json → Decoded β) : Json → Decoded (α × β)
  | arr [a, b] => do
    let a ← first a
    let b ← second b
    .ok (a, b)
  | _ => .error (.unexpected "array of two items")

/-- An object whose names are free; of several values of one name the last one
counts. -/
def nameMap (decode : Json → Decoded α) : Json → Decoded (NameMap α)
  | obj members => do
    let bindings ← members.mapM fun (name, value) => do
      let value ← decode value
      .ok (name, value)
    .ok (.ofList bindings)
  | _ => .error (.unexpected "object")

/-- Where a value stands: a component of a description is read twice, and there
an empty object passes for null in place of what a variant carries. -/
inductive Place where
  | plain
  | component
deriving DecidableEq

/-- One of several names: as a string, or as the only name of an object that
binds it to nothing. -/
def choice (place : Place) (name? : String → Option α) (json : Json) : Decoded α :=
  let named := fun name => match name? name with
    | some value => .ok value
    | none => .error (.unexpected "name of a variant")
  match json with
  | str name => named name
  | obj [(name, null)] => named name
  | obj [(name, obj [])] =>
    if place = .component then named name else .error (.unexpected "variant without content")
  | _ => .error (.unexpected "variant")

end Json

/-- How the fields of a record are laid out: by name, or by position. -/
inductive Layout where
  | named
  | positional
deriving DecidableEq

/-- A record's fields in their order, each with what its value has to satisfy,
and how the record is built from them. -/
structure Record (α : Type) where
  fields : List (String × (Json → Decoded Unit))
  build : Layout → (String → Option Json) → Decoded α

namespace Record
variable {α β : Type}

instance : Applicative Record where
  pure value := ⟨[], fun _ _ => .ok value⟩
  seq function argument :=
    ⟨function.fields ++ (argument ()).fields, fun layout value? => do
      let function ← function.build layout value?
      let argument ← (argument ()).build layout value?
      .ok (function argument)⟩

/-- A field that may be missing in some layouts, and its value then. -/
def field (name : String) (decode : Json → Decoded α) (absent : Layout → Option α) : Record α where
  fields := [(name, fun json => (fun _ => ()) <$> decode json)]
  build layout value? :=
    match value? name, absent layout with
    | some json, _ => decode json
    | none, some value => .ok value
    | none, none => .error (.missing name)

def required (name : String) (decode : Json → Decoded α) : Record α :=
  field name decode fun _ => none

def withDefault (name : String) (decode : Json → Decoded α) (value : α) : Record α :=
  field name decode fun _ => some value

/-- A field that is none where its name is missing; by position it must be there. -/
def optional (name : String) (decode : Json → Decoded α) : Record (Option α) :=
  field name (Json.optional decode) fun
    | .named => some none
    | .positional => none

/-- Whether names that are no field are passed over or refused. -/
inductive Strictness where
  | lenient
  | strict
deriving DecidableEq

/-- Judges the members of an object one by one; no field may come twice. -/
def checkMembers (fields : List (String × (Json → Decoded Unit))) (strictness : Strictness)
    (seen : List String) : List (String × Json) → Decoded Unit
  | [] => .ok ()
  | (_, .broken) :: _ => .error (.unexpected "member")
  | (name, value) :: rest =>
    match fields.lookup name with
    | some check =>
      if seen.contains name then .error (.repeated name)
      else do
        check value
        checkMembers fields strictness (name :: seen) rest
    | none =>
      if strictness = .strict then .error (.unknown name)
      else checkMembers fields strictness seen rest

/-- Judges the items of an array one by one; there may not be more than fields. -/
def checkItems : List (String × (Json → Decoded Unit)) → List Json → Decoded Unit
  | _, [] => .ok ()
  | [], _ :: _ => .error .excess
  | (_, check) :: fields, item :: rest => do
    check item
    checkItems fields rest

/-- A record is an object, or an array of its fields in their order. -/
def decode (record : Record α) (strictness : Strictness) : Json → Decoded α
  | .obj members => do
    checkMembers record.fields strictness [] members
    record.build .named fun name => List.lookup name members
  | .arr items => do
    checkItems record.fields items
    record.build .positional fun name => List.lookup name ((record.fields.map (·.1)).zip items)
  | _ => .error (.unexpected "record")

end Record

/-- Decodes a whole text: nothing may follow its value. -/
def Decoded.ofText {α : Type} (decode : Json → Decoded α) (document : Json × Bool) : Decoded α := do
  let value ← decode document.1
  if document.2 then .error .trailing else .ok value

end SystemOnChip
