import DiskQuery.Command.Record
import DiskQuery.Proofs.Text.Json
import Mathlib.Data.List.Forall2

/-!
# Records in JSON

A reader of JSON gets back from the output of the command just the records that
were printed, in their order.

There are four groups.

* Members and items.  `comes_separated` is about parts between commas.  It gives
  both the members of an object and the items of an array.
* Records.  `Record.toJson` is the value of a record, and `prints_record` says that
  a record is printed as its value.
* Outputs.  `written_jsonArray_iff` says which value an output is.
* Reading.  `Record.ofJson?` is the record of a value.
-/

namespace DiskQuery.Command

open Text
open Json (Comes Lexes Phrase Prints Spells Stands Token Written lexes_blanks lexes_encode
  lexes_mark)

/-! ## Members and items -/

theorem lexes_jsonText (text : String) :
    Lexes .nothing (jsonText text).toList [.text text] .nothing := by
  have hlexes := lexes_encode text.toList
  rw [jsonText, String.toList_ofList]
  rwa [String.ofList_toList] at hlexes

theorem prints_jsonText (text : String) : Prints (.text text) (jsonText text) :=
  ⟨[.text text], lexes_jsonText text, fun _ => .text⟩

/-- The value of a text, or `null`. -/
def textJson? : Option String → Json
  | some text => .text text
  | none => .null

/-- The value of a flag, or `null`. -/
def flagJson? : Option Bool → Json
  | some truth => .boolean truth
  | none => .null

theorem prints_jsonText? (text : Option String) : Prints (textJson? text) (jsonText? text) := by
  cases text with
  | none => exact Json.prints_null
  | some text => exact prints_jsonText text

theorem prints_jsonFlag? (flag : Option Bool) : Prints (flagJson? flag) (jsonFlag? flag) := by
  rcases flag with _ | _ | _
  · exact Json.prints_null
  · exact Json.prints_boolean false
  · exact Json.prints_boolean true

/-- Parts between commas make a phrase that ends with `close`, if each part makes
an element of it. -/
theorem comes_separated {ι : Type} {phrase : List ι → Phrase} {close : Token}
    {element : ι → List Token → Prop}
    (hlast : ∀ i toks rest, element i toks → Spells (phrase [i]) (toks ++ close :: rest) rest)
    (hmore : ∀ i is toks more rest, element i toks → Spells (phrase is) more rest →
      Spells (phrase (i :: is)) (toks ++ .comma :: more) rest)
    {parts : List String} {elements : List ι} (hne : elements ≠ [])
    (h : List.Forall₂ (fun part i => Comes part (element i)) parts elements) :
    Comes (String.intercalate ",\n" parts)
      fun toks => ∀ rest, Spells (phrase elements) (toks ++ close :: rest) rest := by
  induction h with
  | nil => exact absurd rfl hne
  | @cons part i parts elements hpart hparts ih =>
    obtain ⟨toks, hlexes, helement⟩ := hpart
    cases hparts with
    | nil => exact ⟨toks, hlexes, fun rest => hlast i toks rest helement⟩
    | cons _ _ =>
      obtain ⟨more, hlexesMore, hspells⟩ := ih (List.cons_ne_nil _ _)
      refine ⟨toks ++ .comma :: more, ?_, fun rest => ?_⟩
      · have hcomma : Lexes .nothing ",\n".toList [.comma] .nothing :=
          lexes_mark rfl (by decide)
        rw [String.intercalate_cons_cons, String.toList_append, String.toList_append,
          List.append_assoc]
        exact hlexes.append (hcomma.append hlexesMore)
      · rw [List.append_assoc, List.cons_append]
        exact hmore i _ toks _ rest helement (hspells rest)

/-- The tokens are a member of an object. -/
def StandsMember (member : String × Json) (toks : List Token) : Prop :=
  ∃ inner, toks = .text member.1 :: .colon :: inner ∧ Stands member.2 inner

theorem comes_items {parts : List String} {items : List Json} (hne : items ≠ [])
    (h : List.Forall₂ (fun part item => Prints item part) parts items) :
    Comes (String.intercalate ",\n" parts)
      fun toks => ∀ rest, Spells (.items items) (toks ++ .closeArray :: rest) rest :=
  comes_separated (fun _ _ _ hitem => .lastItem (hitem _))
    (fun _ _ _ _ _ hitem hitems => .item (hitem _) hitems) hne h

theorem comes_members {parts : List String} {members : List (String × Json)} (hne : members ≠ [])
    (h : List.Forall₂ (fun part member => Comes part (StandsMember member)) parts members) :
    Comes (String.intercalate ",\n" parts)
      fun toks => ∀ rest, Spells (.members members) (toks ++ .closeObject :: rest) rest := by
  refine comes_separated ?_ ?_ hne h
  · rintro member _ rest ⟨inner, rfl, hstands⟩
    exact .lastMember (hstands _)
  · rintro member members _ more rest ⟨inner, rfl, hstands⟩ hmembers
    exact .member (hstands _) hmembers

/-- A member is printed as its name and its value. -/
theorem comes_jsonMember {indent name text : String} {value : Json}
    (hindent : indent.toList.all Json.isBlank = true) (h : Prints value text) :
    Comes (indent ++ jsonText name ++ ": " ++ text) (StandsMember (name, value)) := by
  obtain ⟨inner, hlexes, hstands⟩ := h
  refine ⟨_, ?_, inner, rfl, hstands⟩
  have hcolon : Lexes .nothing ": ".toList [.colon] .nothing := lexes_mark rfl (by decide)
  rw [String.toList_append, String.toList_append, String.toList_append]
  exact (((lexes_blanks hindent).append (lexes_jsonText name)).append hcolon).append hlexes

theorem comes_jsonMembers {indent : String} (hindent : indent.toList.all Json.isBlank = true)
    {members : List (String × String)} {values : List (String × Json)} (hne : values ≠ [])
    (h : List.Forall₂ (fun member value => member.1 = value.1 ∧ Prints value.2 member.2)
      members values) :
    Comes (jsonMembers indent members)
      fun toks => ∀ rest, Spells (.members values) (toks ++ .closeObject :: rest) rest := by
  unfold jsonMembers
  refine comes_members hne (List.forall₂_map_left_iff.2 (h.imp ?_))
  rintro ⟨name, text⟩ ⟨_, value⟩ ⟨rfl, hprints⟩
  exact comes_jsonMember hindent hprints

theorem all_isBlank_append {first second : String} (hfirst : first.toList.all Json.isBlank = true)
    (hsecond : second.toList.all Json.isBlank = true) :
    (first ++ second).toList.all Json.isBlank = true := by
  rw [String.toList_append, List.all_append, hfirst, hsecond]
  rfl

theorem prints_jsonObject {indent : String} (hindent : indent.toList.all Json.isBlank = true)
    {members : List (String × String)} {values : List (String × Json)} (hne : values ≠ [])
    (h : List.Forall₂ (fun member value => member.1 = value.1 ∧ Prints value.2 member.2)
      members values) :
    Prints (.object values) (jsonObject indent members) := by
  have hinner : (indent ++ "  ").toList.all Json.isBlank = true :=
    all_isBlank_append hindent (by decide)
  obtain ⟨toks, hlexes, hspells⟩ := comes_jsonMembers hinner hne h
  refine ⟨.openObject :: (toks ++ [.closeObject]), ?_, fun rest => ?_⟩
  · have hopen : Lexes .nothing "\x7b\n".toList [.openObject] .nothing :=
      lexes_mark rfl (by decide)
    have hend : Lexes .nothing ("\n" ++ indent).toList [] .nothing :=
      lexes_blanks (all_isBlank_append (by decide) hindent)
    have hclose : Lexes .nothing "\x7d".toList [.closeObject] .nothing :=
      lexes_mark rfl (by decide)
    have hall := hopen.append (hlexes.append (hend.append hclose))
    unfold jsonObject
    simp only [String.toList_append, List.append_assoc] at hall ⊢
    exact hall
  · rw [List.cons_append, List.append_assoc]
    exact .object (hspells rest)

/-! ## Records -/

/-- The value of the attributes of a disk. -/
def attributesJson (attributes : Attributes) : Json :=
  .object [("removable", flagJson? attributes.removable), ("vendor", textJson? attributes.vendor),
    ("model", textJson? attributes.model)]

/-- The attributes as a member, if there are any. -/
def lookupMembers : Lookup → List (String × Json)
  | .described attributes => [("attributes", attributesJson attributes)]
  | _ => []

/-- The value of a record. -/
def Record.toJson (record : Record) : Json :=
  .object ([("disk", .text record.disk), ("status", .text record.lookup.status)] ++
    lookupMembers record.lookup)

theorem prints_record (record : Record) : Prints record.toJson record.json := by
  have hattributes : List.Forall₂ (fun member value => member.1 = value.1 ∧ Prints value.2 member.2)
      (jsonAttributes "    " record.lookup) (lookupMembers record.lookup) := by
    cases record.lookup with
    | described attributes =>
      refine .cons ⟨rfl, prints_jsonObject (by decide) (List.cons_ne_nil _ _) ?_⟩ .nil
      refine .cons ⟨rfl, prints_jsonFlag? _⟩ (.cons ⟨rfl, prints_jsonText? _⟩ ?_)
      exact .cons ⟨rfl, prints_jsonText? _⟩ .nil
    | notFound | unavailable => exact .nil
  refine prints_jsonObject (by decide) (List.cons_ne_nil _ _) ?_
  exact .cons ⟨rfl, prints_jsonText _⟩ (.cons ⟨rfl, prints_jsonText _⟩ hattributes)

/-! ## Outputs -/

/-- An output is the array of the records and no other value. -/
theorem written_jsonArray_iff (records : List Record) (value : Json) :
    Written value (jsonArray records) ↔ value = .array (records.map Record.toJson) := by
  refine Prints.written_iff ?_
  cases records with
  | nil =>
    have hopen : Lexes .nothing "[".toList [.openArray] .nothing := lexes_mark rfl (by decide)
    have hclose : Lexes .nothing "]\n".toList [.closeArray] .nothing := lexes_mark rfl (by decide)
    exact ⟨_, hopen.append hclose, fun rest => .emptyArray⟩
  | cons first others =>
    have hparts : List.Forall₂ (fun part item => Prints item part)
        ((first :: others).map fun record => "  " ++ record.json)
        ((first :: others).map Record.toJson) := by
      refine List.forall₂_map_left_iff.2 (List.forall₂_map_right_iff.2 ?_)
      refine List.forall₂_same.2 fun record _ => ?_
      obtain ⟨toks, hlexes, hstands⟩ := prints_record record
      refine ⟨toks, ?_, hstands⟩
      rw [String.toList_append]
      exact (lexes_blanks (by decide)).append hlexes
    obtain ⟨toks, hlexes, hspells⟩ := comes_items (List.cons_ne_nil _ _) hparts
    refine ⟨.openArray :: (toks ++ [.closeArray]), ?_, fun rest => ?_⟩
    · have hopen : Lexes .nothing "[\n".toList [.openArray] .nothing :=
        lexes_mark rfl (by decide)
      have hend : Lexes .nothing "\n".toList [] .nothing := lexes_blanks (by decide)
      have hclose : Lexes .nothing "]\n".toList [.closeArray] .nothing :=
        lexes_mark rfl (by decide)
      have hall := hopen.append (hlexes.append (hend.append hclose))
      unfold jsonArray
      rw [String.toList_append, String.toList_append, List.append_assoc]
      exact hall
    · rw [List.cons_append, List.append_assoc]
      exact .array (hspells rest)

/-! ## Reading -/

/-- The value of the member of that name. -/
def member? (name : String) : Json → Option Json
  | .object members => members.lookup name
  | _ => none

/-- The text that a value is. -/
def ofText? : Json → Option String
  | .text text => some text
  | _ => none

/-- The text that a value is, if it is not `null`. -/
def ofTextJson? : Json → Option (Option String)
  | .null => some none
  | .text text => some (some text)
  | _ => none

/-- The flag that a value is, if it is not `null`. -/
def ofFlagJson? : Json → Option (Option Bool)
  | .null => some none
  | .boolean truth => some (some truth)
  | _ => none

/-- The attributes that a value is. -/
def ofAttributesJson? (value : Json) : Option Attributes := do
  let removable ← ofFlagJson? (← member? "removable" value)
  let vendor ← ofTextJson? (← member? "vendor" value)
  let model ← ofTextJson? (← member? "model" value)
  pure ⟨removable, vendor, model⟩

/-- The record that a value is. -/
def Record.ofJson? (value : Json) : Option Record := do
  let disk ← ofText? (← member? "disk" value)
  let status ← ofText? (← member? "status" value)
  if status = "described" then
    let attributes ← ofAttributesJson? (← member? "attributes" value)
    pure ⟨disk, .described attributes⟩
  else if status = "not_found" then
    pure ⟨disk, .notFound⟩
  else if status = "unavailable" then
    pure ⟨disk, .unavailable⟩
  else
    none

theorem ofTextJson?_textJson? (text : Option String) :
    ofTextJson? (textJson? text) = some text := by
  cases text <;> rfl

theorem ofFlagJson?_flagJson? (flag : Option Bool) : ofFlagJson? (flagJson? flag) = some flag := by
  cases flag <;> rfl

theorem ofAttributesJson?_attributesJson (attributes : Attributes) :
    ofAttributesJson? (attributesJson attributes) = some attributes := by
  have hremovable : member? "removable" (attributesJson attributes) =
      some (flagJson? attributes.removable) := rfl
  have hvendor : member? "vendor" (attributesJson attributes) =
      some (textJson? attributes.vendor) := rfl
  have hmodel : member? "model" (attributesJson attributes) =
      some (textJson? attributes.model) := rfl
  rw [ofAttributesJson?, hremovable, hvendor, hmodel]
  simp only [Option.bind_eq_bind, Option.bind_some, ofFlagJson?_flagJson?, ofTextJson?_textJson?]
  rfl

theorem ofJson?_toJson (record : Record) : Record.ofJson? record.toJson = some record := by
  obtain ⟨disk, lookup⟩ := record
  cases lookup with
  | described attributes =>
    show ((ofAttributesJson? (attributesJson attributes)).bind fun read =>
      some (⟨disk, .described read⟩ : Record)) = _
    rw [ofAttributesJson?_attributesJson]
    rfl
  | notFound | unavailable => rfl

/-- The records come back in their order, each as often as it was printed. -/
theorem mapM_ofJson? (records : List Record) :
    (records.map Record.toJson).mapM Record.ofJson? = some records := by
  induction records with
  | nil => rfl
  | cons record rest ih =>
    rw [List.map_cons, List.mapM_cons, ofJson?_toJson, ih]
    rfl


end DiskQuery.Command
