/-! Finite maps from names, kept as lists in strictly increasing order of the
names by code point. Two maps with the same bindings are therefore equal. -/
namespace SystemOnChip

structure NameMap (α : Type) where
  entries : List (String × α)
  sorted : entries.Pairwise (·.1 < ·.1)

namespace NameMap
variable {α : Type}

@[ext] theorem ext {a b : NameMap α} (h : a.entries = b.entries) : a = b := by
  cases a; cases b; cases h; rfl

instance [DecidableEq α] : DecidableEq (NameMap α) := fun a b =>
  if h : a.entries = b.entries then isTrue (ext h) else isFalse (h ∘ congrArg entries)

def empty : NameMap α := ⟨[], .nil⟩

instance : Inhabited (NameMap α) := ⟨empty⟩

/-- Binds `name` in an ordered list, replacing what it was bound to. -/
def bind (name : String) (value : α) : List (String × α) → List (String × α)
  | [] => [(name, value)]
  | entry :: rest =>
    if name < entry.1 then (name, value) :: entry :: rest
    else if name = entry.1 then (name, value) :: rest
    else entry :: bind name value rest

theorem eq_or_mem_of_mem_bind {name : String} {value : α} {entries : List (String × α)}
    {entry : String × α} (h : entry ∈ bind name value entries) :
    entry = (name, value) ∨ entry ∈ entries := by
  induction entries with
  | nil => exact .inl (List.mem_singleton.mp h)
  | cons head rest ih =>
    simp only [bind] at h
    split at h
    · exact List.mem_cons.mp h
    · split at h
      · exact (List.mem_cons.mp h).imp_right (List.mem_cons_of_mem _)
      · rcases List.mem_cons.mp h with rfl | h
        · exact .inr List.mem_cons_self
        · exact (ih h).imp_right (List.mem_cons_of_mem _)

theorem pairwise_bind {name : String} {value : α} {entries : List (String × α)}
    (sorted : entries.Pairwise (·.1 < ·.1)) :
    (bind name value entries).Pairwise (·.1 < ·.1) := by
  induction sorted with
  | nil => exact .cons (fun _ h => nomatch h) .nil
  | @cons head rest first tail ih =>
    simp only [bind]
    split
    next below =>
      refine .cons (fun entry member => ?_) (.cons first tail)
      rcases List.mem_cons.mp member with rfl | member
      · exact below
      · exact String.lt_trans below (first entry member)
    next above =>
      split
      next same => exact .cons (fun entry member => same ▸ first entry member) tail
      next other =>
        refine .cons (fun entry member => ?_) ih
        rcases eq_or_mem_of_mem_bind member with rfl | member
        · exact String.not_le.mp fun below =>
            other (String.le_antisymm below (String.not_lt.mp above))
        · exact first entry member

def insert (map : NameMap α) (name : String) (value : α) : NameMap α :=
  ⟨bind name value map.entries, pairwise_bind map.sorted⟩

def get? (map : NameMap α) (name : String) : Option α := map.entries.lookup name

theorem lookup_cons (name other : String) (value : α) (rest : List (String × α)) :
    List.lookup other ((name, value) :: rest) =
      if other = name then some value else rest.lookup other := by
  rw [List.lookup_cons]
  by_cases same : other = name
  · simp [same]
  · simp [same, beq_eq_false_iff_ne.mpr same]

theorem lookup_bind (name other : String) (value : α) (entries : List (String × α)) :
    (bind name value entries).lookup other =
      if other = name then some value else entries.lookup other := by
  induction entries with
  | nil => rw [bind, lookup_cons]
  | cons head rest ih =>
    obtain ⟨key, held⟩ := head
    simp only [bind]
    split
    · rw [lookup_cons]
    · split
      next replaced =>
        subst replaced
        rw [lookup_cons, lookup_cons]
        split <;> rfl
      next kept =>
        rw [lookup_cons, ih, lookup_cons]
        split
        next found => rw [if_neg (found ▸ Ne.symm kept)]
        next => rfl

@[simp] theorem get?_empty (name : String) : (empty : NameMap α).get? name = none := rfl

/-- The name inserted is bound to its new value, and no other name is touched. -/
@[simp] theorem get?_insert (map : NameMap α) (name other : String) (value : α) :
    (map.insert name value).get? other = if other = name then some value else map.get? other :=
  lookup_bind name other value map.entries

def contains (map : NameMap α) (name : String) : Bool := (map.get? name).isSome

def size (map : NameMap α) : Nat := map.entries.length

def isEmpty (map : NameMap α) : Bool := map.entries.isEmpty

/-- Of several bindings of one name the last one counts. -/
def ofList (bindings : List (String × α)) : NameMap α :=
  bindings.foldl (fun map (name, value) => map.insert name value) empty

end NameMap

end SystemOnChip
