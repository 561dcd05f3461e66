import Mathlib.Data.List.Forall2
import SystemOnChip.Json.Decode
import SystemOnChip.Json.Encode
import SystemOnChip.Proofs.Names

/-! Encoders with the decoders that undo them: for words and texts, for what may be
absent, for lists and maps, and for records field by field. A decoder that undoes an
encoder finds each value again that was encoded, whatever the value is. -/
namespace SystemOnChip

namespace Json
variable {α β : Type} {encode : α → Json} {decode : Json → Decoded α}

theorem areReadable_iff {items : List Json} :
    areReadable items = true ↔ ∀ item ∈ items, item.isReadable = true := by
  induction items with
  | nil => simp [areReadable]
  | cons item rest ih => simp [areReadable, ih]

theorem membersReadable_iff {members : List (String × Json)} :
    membersReadable members = true ↔ ∀ entry ∈ members, entry.2.isReadable = true := by
  induction members with
  | nil => simp [membersReadable]
  | cons entry rest ih => simp [membersReadable, ih]

/-- What is encoded can be read to its end, and is decoded to the value it stands for. -/
structure Faithful (encode : α → Json) (decode : Json → Decoded α) : Prop where
  back : ∀ value, decode (encode value) = .ok value
  readable : ∀ value, (encode value).isReadable = true

namespace Faithful

theorem word64 : Faithful num Json.word64 := ⟨fun _ => rfl, fun _ => rfl⟩

theorem word32 : Faithful ofWord32 Json.word32 where
  back value := by
    have small : value.toUInt64.toNat < UInt32.size := by
      rw [UInt32.toNat_toUInt64]
      exact value.toNat_lt
    rw [ofWord32, Json.word32, if_pos small, UInt32.toUInt32_toUInt64]
  readable _ := rfl

theorem text : Faithful str Json.text := ⟨fun _ => rfl, fun _ => rfl⟩

theorem truth : Faithful bool Json.truth := ⟨fun _ => rfl, fun _ => rfl⟩

/-- An absent value is null, which no value may be. -/
theorem option (faithful : Faithful encode decode) (present : ∀ value, encode value ≠ null) :
    Faithful (ofOption encode) (Json.optional decode) where
  back
    | none => rfl
    | some value => by
      rw [ofOption, Json.optional]
      · rw [faithful.back]
        rfl
      · exact present value
  readable
    | none => rfl
    | some value => faithful.readable value

theorem mapM_map {γ : Type} {write : α → γ} {read : γ → Decoded α}
    (back : ∀ value, read (write value) = .ok value) (values : List α) :
    (values.map write).mapM read = .ok values := by
  induction values with
  | nil => rfl
  | cons value rest ih =>
    rw [List.map_cons, List.mapM_cons, back, ih]
    rfl

theorem list (faithful : Faithful encode decode) :
    Faithful (ofList encode) (Json.items decode) where
  back := mapM_map faithful.back
  readable values := by
    refine areReadable_iff.mpr fun item member => ?_
    obtain ⟨value, -, rfl⟩ := List.mem_map.mp member
    exact faithful.readable value

theorem pair {encodeSecond : β → Json} {decodeSecond : Json → Decoded β}
    (first : Faithful encode decode) (second : Faithful encodeSecond decodeSecond) :
    Faithful (fun (a, b) => arr [encode a, encodeSecond b]) (Json.pair decode decodeSecond) where
  back := by
    rintro ⟨a, b⟩
    simp only [Json.pair, first.back, second.back]
    rfl
  readable := by
    rintro ⟨a, b⟩
    simp [isReadable, areReadable, first.readable, second.readable]

/-- The bindings of a map are written in the order of their names. -/
theorem nameMap (faithful : Faithful encode decode) :
    Faithful (ofNameMap encode) (Json.nameMap decode) where
  back map := by
    rw [ofNameMap, Json.nameMap, mapM_map]
    · exact congrArg Except.ok (NameMap.ofList_entries map)
    · rintro ⟨name, value⟩
      simp only [faithful.back]
      rfl
  readable map := by
    refine membersReadable_iff.mpr fun entry member => ?_
    obtain ⟨⟨name, value⟩, -, rfl⟩ := List.mem_map.mp member
    exact faithful.readable value

/-- A variant goes by its name. -/
theorem choice {place : Place} {name : α → String} {name? : String → Option α}
    (known : ∀ value, name? (name value) = some value) :
    Faithful (fun value => str (name value)) (Json.choice place name?) where
  back value := by simp only [Json.choice, known]
  readable _ := rfl

end Faithful

end Json

namespace Record
open Json (Faithful)
variable {α β : Type} {members rest : List (String × Json)}

/-- The member is the one that the field asks for, and passes its check. -/
structure Fits (field : String × (Json → Decoded Unit)) (member : String × Json) : Prop where
  name : field.1 = member.1
  check : field.2 member.2 = .ok ()
  readable : member.2.isReadable = true

/-- The record takes its fields from the front of the members, in their order, and builds
the value of them. -/
def Takes (record : Record α) (members : List (String × Json)) (value : α)
    (rest : List (String × Json)) : Prop :=
  ∃ taken, members = taken ++ rest ∧ List.Forall₂ Fits record.fields taken ∧
    ∀ value?, (∀ member ∈ taken, value? member.1 = some member.2) →
      record.build .named value? = .ok value

namespace Takes

theorem pure {value : α} : (Pure.pure value : Record α).Takes members value members :=
  ⟨[], rfl, .nil, fun _ _ => rfl⟩

theorem field {name : String} {encode : α → Json} {decode : Json → Decoded α}
    {absent : Layout → Option α} {value : α} (faithful : Faithful encode decode) :
    (Record.field name decode absent).Takes ((name, encode value) :: rest) value rest := by
  refine ⟨[(name, encode value)], rfl, .cons ⟨rfl, ?_, faithful.readable value⟩ .nil, ?_⟩
  · change (fun _ => ()) <$> decode (encode value) = _
    rw [faithful.back]
    rfl
  · intro value? found
    have bound := found _ List.mem_cons_self
    simp only [Record.field, bound, faithful.back]

theorem seq {function : Record (α → β)} {argument : Record α} {middle : List (String × Json)}
    {apply : α → β} {value : α} (first : function.Takes members apply middle)
    (second : argument.Takes middle value rest) :
    (function <*> argument).Takes members (apply value) rest := by
  obtain ⟨early, rfl, earlyFit, earlyBuild⟩ := first
  obtain ⟨late, rfl, lateFit, lateBuild⟩ := second
  refine ⟨early ++ late, (List.append_assoc ..).symm, List.rel_append earlyFit lateFit, ?_⟩
  intro value? found
  have built := earlyBuild value? fun member early => found member (List.mem_append_left _ early)
  have given := lateBuild value? fun member late => found member (List.mem_append_right _ late)
  simp only [Seq.seq, built, given]
  rfl

theorem map {f : α → β} {record : Record α} {value : α} (takes : record.Takes members value rest) :
    (f <$> record).Takes members (f value) rest :=
  seq pure takes

end Takes

/-- Each member finds the field that it fits under its name. -/
theorem known_of_fits {fields : List (String × (Json → Decoded Unit))}
    (fits : List.Forall₂ Fits fields members) (distinct : (members.map (·.1)).Nodup) :
    ∀ member ∈ members, ∃ check,
      fields.lookup member.1 = some check ∧ Fits (member.1, check) member := by
  induction fits with
  | nil => exact fun _ listed => nomatch listed
  | @cons field head fields rest first _ ih =>
    obtain ⟨name, check⟩ := field
    obtain rfl : name = head.1 := first.name
    obtain ⟨other, distinct⟩ := List.nodup_cons.mp distinct
    intro member listed
    rcases List.mem_cons.mp listed with rfl | later
    · exact ⟨check, by rw [NameMap.lookup_cons, if_pos rfl], first⟩
    · obtain ⟨own, found, fits⟩ := ih distinct member later
      have different : member.1 ≠ head.1 := by
        intro same
        exact other (List.mem_map.mpr ⟨member, later, same⟩)
      exact ⟨own, by rw [NameMap.lookup_cons, if_neg different, found], fits⟩

/-- Members that each fit a field of their own are judged without a fault. -/
theorem checkMembers_ok {fields : List (String × (Json → Decoded Unit))} {strictness : Strictness}
    {seen : List String} (known : ∀ member ∈ members, ∃ check,
      fields.lookup member.1 = some check ∧ Fits (member.1, check) member)
    (distinct : (members.map (·.1)).Nodup) (fresh : ∀ member ∈ members, member.1 ∉ seen) :
    checkMembers fields strictness seen members = .ok () := by
  -- on the members, as the names that have been seen grow with them
  induction members generalizing seen with
  | nil => rfl
  | cons member rest ih =>
    obtain ⟨name, value⟩ := member
    obtain ⟨check, found, fits⟩ := known _ List.mem_cons_self
    obtain ⟨other, distinct⟩ := List.nodup_cons.mp distinct
    have unseen : seen.contains name = false := by simpa using fresh _ List.mem_cons_self
    have passes : check value = .ok () := fits.check
    have later := fun entry member => known entry (List.mem_cons_of_mem _ member)
    rw [checkMembers]
    · simp only [found, unseen, passes, Bool.false_eq_true, if_false]
      refine ih later distinct fun entry member => ?_
      rw [List.mem_cons, not_or]
      refine ⟨?_, fresh entry (List.mem_cons_of_mem _ member)⟩
      rintro rfl
      exact other (Names.mem_map_of_mem member)
    · rintro rfl
      have readable := fits.readable
      contradiction

/-- A record that takes all members of an object is decoded to the value of them. -/
theorem Takes.decode {record : Record α} {strictness : Strictness} {value : α}
    (takes : record.Takes members value []) (distinct : (members.map (·.1)).Nodup) :
    record.decode strictness (.obj members) = .ok value := by
  obtain ⟨taken, same, fits, build⟩ := takes
  obtain rfl : members = taken := same.trans (List.append_nil taken)
  have passed : checkMembers record.fields strictness [] members = .ok () :=
    checkMembers_ok (known_of_fits fits distinct) distinct fun _ _ => List.not_mem_nil
  have built := build (fun name => List.lookup name members) fun _ listed =>
    Names.lookup_of_mem distinct listed
  rw [Record.decode, passed]
  exact built

end Record

/-- Objects of all fields of a record are decoded by it. -/
theorem Json.Faithful.record {α : Type} {record : Record α} {strictness : Record.Strictness}
    {members : α → List (String × Json)} (distinct : ∀ value, ((members value).map (·.1)).Nodup)
    (takes : ∀ value, record.Takes (members value) value []) :
    Faithful (fun value => .obj (members value)) (record.decode strictness) where
  back value := (takes value).decode (distinct value)
  readable value := by
    obtain ⟨taken, same, fits, -⟩ := takes value
    rw [List.append_nil] at same
    refine Json.membersReadable_iff.mpr fun member listed => ?_
    have known := Record.known_of_fits (same ▸ fits) (distinct value)
    obtain ⟨check, -, fits⟩ := known member listed
    exact fits.readable

end SystemOnChip
