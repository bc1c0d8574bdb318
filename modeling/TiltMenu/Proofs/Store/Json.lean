import TiltMenu.Proofs.Json.Reading
import TiltMenu.Proofs.Text.Order
import TiltMenu.Store.Json

/-!
# Stores read back from JSON

A store is read back from its JSON form, whichever of the two forms the text has
(`ofJson?_toJson`): an integer is a number there and a text is a string, so that a text that looks
like a number stays a text. The parameters are read in the order in which they are written, which
is increasing, so that none of them takes the place of another.

What is printed of a store is an object of its parameters, one after the other by increasing UTF-8
form of the key (`printed`). The store is also read back from a document around what is printed,
wherever that document has blanks (`Spacing.document`).
-/

set_option autoImplicit false

namespace TiltMenu.Store

open Json (Blank Spells)

/-! ## Reading what is in a value -/

/-- A value is read back from its JSON form, with the type that it has. -/
theorem Value.ofJson?_toJson (value : Value) : Value.ofJson? value.toJson = some value := by
  cases value with
  | int number =>
    have read := (Text.int64OfInt?_eq_some_iff number.toInt number).mpr rfl
    rw [toJson, ofJson?, read]
    rfl
  | text content => rfl

theorem Access.ofJsonName?_jsonName (access : Access) :
    Access.ofJsonName? access.jsonName = some access := by
  cases access <;> decide

/-- A parameter is read back from its JSON form. -/
theorem Parameter.ofJson?_toJson (parameter : Parameter) :
    Parameter.ofJson? parameter.toJson = some parameter := by
  have fields : Parameter.ofFields? parameter.value.toJson
      (.string (some parameter.access.jsonName)) = some parameter := by
    rw [ofFields?, Value.ofJson?_toJson, Access.ofJson?, Access.ofJsonName?_jsonName]
    rfl
  -- both members are known and stand once, so looking them up gives these two fields
  exact fields

/-- Every member of the printed object is read as its parameter. -/
theorem mapM_entryOfMember? (entries : List (String × Parameter)) :
    (entries.map fun entry => (some entry.1, entry.2.toJson)).mapM entryOfMember? =
      some entries := by
  induction entries with
  | nil => rfl
  | cons first rest ih =>
    rw [List.map_cons, List.mapM_cons, ih, entryOfMember?, Parameter.ofJson?_toJson]
    rfl

/-- **The parameters are read back from their JSON form.** -/
theorem ofEntriesJson?_entriesJson (store : Store) :
    ofEntriesJson? store.entriesJson = some store := by
  have read : ofList store.entries = store := ext (Sorted.ofList_of_increasing store.increasing)
  rw [entriesJson, ofEntriesJson?, mapM_entryOfMember?, Option.map_some, read]

/-- **A store is read back from its JSON form.** -/
theorem ofJson?_toJson (store : Store) : ofJson? store.toJson = some store :=
  store.ofEntriesJson?_entriesJson

/-! ## Reading a text -/

theorem Value.isTextual_toJson (value : Value) : value.toJson.IsTextual := by
  cases value <;> exact .scalar trivial

theorem Parameter.isTextual_toJson (parameter : Parameter) : parameter.toJson.IsTextual := by
  refine .object (List.forall_mem_cons.mpr ⟨rfl, List.forall_mem_singleton.mpr rfl⟩) ?_
  exact List.forall_mem_cons.mpr
    ⟨parameter.value.isTextual_toJson, List.forall_mem_singleton.mpr (.scalar trivial)⟩

/-- The JSON form of the parameters has texts and integers only. -/
theorem isTextual_entriesJson (store : Store) : store.entriesJson.IsTextual := by
  refine .object ?_ ?_ <;> rw [List.forall_mem_map]
  · exact fun _ _ => rfl
  · exact fun entry _ => entry.2.isTextual_toJson

theorem isTextual_toJson (store : Store) : store.toJson.IsTextual :=
  .object (List.forall_mem_singleton.mpr rfl)
    (List.forall_mem_singleton.mpr store.isTextual_entriesJson)

/-- A store is read back from every text that writes its JSON form. -/
theorem deserialize?_of_spells {store : Store} {before text after : List Char}
    (front : Blank before) (spelled : Spells store.toJson text) (back : Blank after) :
    deserialize? (String.ofList (before ++ (text ++ after))) = some store := by
  rw [deserialize?, String.toList_ofList, Json.parse?_of_spells front spelled back]
  exact store.ofJson?_toJson

theorem deserialize?_of_spells_alone {store : Store} {text : List Char}
    (spelled : Spells store.toJson text) : deserialize? (String.ofList text) = some store := by
  simpa using deserialize?_of_spells Json.blank_nil spelled Json.blank_nil

/-! ## A document around what is printed -/

/-- The blanks of an object with one member. -/
structure Spacing where
  front : List Char
  opening : List Char
  beforeColon : List Char
  afterColon : List Char
  closing : List Char
  back : List Char
  blank : ∀ blanks ∈ [front, opening, beforeColon, afterColon, closing, back], Blank blanks

/-- The document with the text as the value of its only member `entries`. -/
def Spacing.document (spacing : Spacing) (text : String) : String :=
  String.ofList
    (spacing.front ++ '{' :: spacing.opening ++ "\"entries\"".toList ++ spacing.beforeColon ++ ':'
      :: spacing.afterColon ++ text.toList ++ spacing.closing ++ '}' :: spacing.back)

/-- A store is read back from the document around a text that writes its parameters. -/
theorem deserialize?_document {store : Store} (spacing : Spacing) {text : String}
    (spelled : Spells store.entriesJson text.toList) :
    deserialize? (spacing.document text) = some store := by
  have blank := spacing.blank
  simp only [List.forall_mem_cons] at blank
  obtain ⟨front, opening, beforeColon, afterColon, closing, back, _⟩ := blank
  have member := @Json.SpellsMembers.last "entries" _ _ _ _ _ _ opening beforeColon afterColon
    spelled closing
  have read : deserialize? _ = some store :=
    deserialize?_of_spells front (.object member) back
  have name : Json.writeString (some "entries") = "\"entries\"".toList := by decide
  simpa [Spacing.document, name] using read

/-! ## The layout of what is printed -/

/-- A parameter as it is printed: its key and its two fields, the value before the access. -/
def printedEntry (entry : String × Parameter) : List Char :=
  "\n  ".toList ++ (Json.writeString (some entry.1) ++ (": \x7b\n    \"value\": ".toList
    ++ (Json.writeScalar entry.2.value.toJson ++ (",\n    \"access\": \"".toList
      ++ (entry.2.access.jsonName.toList ++ "\"\n  \x7d".toList)))))

/-- The parameters as they are printed: on lines of their own with commas between them, or two
braces alone if there are none. -/
def printed (store : Store) : String :=
  if store.entries = [] then "\x7b\x7d"
  else String.ofList
    ('{' :: List.intercalate [','] (store.entries.map printedEntry) ++ "\n\x7d".toList)

theorem Value.writeIndented_toJson (value : Value) (depth : Nat) :
    value.toJson.writeIndented depth = Json.writeScalar value.toJson := by
  cases value <;> rfl

/-- A parameter is printed one level deep. -/
theorem writeIndented_parameter (key : String) (parameter : Parameter) :
    Json.lineBreak 1 ++ Json.writeString (some key)
        ++ ':' :: ' ' :: parameter.toJson.writeIndented 1 = printedEntry (key, parameter) := by
  have valueName : Json.writeString (some "value") = "\"value\"".toList := by decide
  have accessName : Json.writeString (some "access") = "\"access\"".toList := by decide
  have access : Json.writeScalar (.string (some parameter.access.jsonName)) =
      '"' :: parameter.access.jsonName.toList ++ ['"'] := by
    cases parameter.access <;> decide
  simp only [Parameter.toJson, Json.writeIndented, Json.writeIndentedMembers, printedEntry,
    Value.writeIndented_toJson, valueName, accessName, access]
  simp only [List.append_assoc, List.cons_append, List.nil_append]
  -- the two sides cut the same characters differently
  rfl

theorem writeIndentedMembers_entries (entries : List (String × Parameter)) :
    Json.writeIndentedMembers 1 (entries.map fun entry => (some entry.1, entry.2.toJson)) =
      List.intercalate [','] (entries.map printedEntry) := by
  induction entries with
  | nil => rfl
  | cons first rest ih =>
    cases rest with
    | nil =>
      rw [List.map_singleton, List.map_singleton, List.intercalate_singleton,
        ← writeIndented_parameter]
      rfl
    | cons second others =>
      have joined : List.intercalate [','] ((first :: second :: others).map printedEntry) =
          printedEntry first ++ [','] ++
            List.intercalate [','] ((second :: others).map printedEntry) :=
        List.intercalate_cons_cons
      rw [joined, ← ih, ← writeIndented_parameter]
      simp [Json.writeIndentedMembers]

/-- **What is printed of a store has this layout.** -/
theorem dump_eq_printed (store : Store) : store.dump = store.printed := by
  rw [dump, printed, entriesJson]
  cases entries : store.entries with
  | nil => rfl
  | cons first rest =>
    rw [if_neg (List.cons_ne_nil _ _), ← writeIndentedMembers_entries]
    simp [Json.writeIndented, Json.lineBreak]

example :
    printed (ofList [("tilt\n", ⟨.text "42", .readOnly⟩)]) =
      "\x7b\n  \"tilt\\n\": \x7b\n    \"value\": \"42\",\n    \"access\": \"read_only\"\n"
        ++ "  \x7d\n\x7d" := by
  decide

/-! ## The round trip -/

/-- What is printed writes the object of the parameters. -/
theorem spells_dump (store : Store) : Spells store.entriesJson store.dump.toList := by
  rw [dump, String.toList_ofList]
  exact Json.spells_writeIndented store.isTextual_entriesJson 0

/-- **What is printed of a store is read as the object of its parameters.** -/
theorem parse?_dump (store : Store) : Json.parse? store.dump.toList = some store.entriesJson := by
  simpa using Json.parse?_of_spells Json.blank_nil store.spells_dump Json.blank_nil

/-- **A store is read back from its JSON.** Reading gives the store from its compact and from its
indented form, with every integer an integer and every text a text. What is printed is the indented
form of the object of its parameters in the layout of `printed`, the keys by increasing UTF-8 form;
and as the value of the only member `entries` of an object it gives the store as well. -/
theorem json_round_trip (store : Store) :
    deserialize? store.serialize = some store ∧
      deserialize? (String.ofList (store.toJson.writeIndented 0)) = some store ∧
      Json.parse? store.dump.toList = some store.entriesJson ∧
      store.dump = store.printed ∧
      store.entries.Pairwise
        (fun first second => Text.encode first.1 < Text.encode second.1) ∧
      ∀ spacing : Spacing, deserialize? (spacing.document store.dump) = some store := by
  refine ⟨?compact, ?indented, store.parse?_dump, store.dump_eq_printed, ?order, ?inside⟩
  case compact => exact deserialize?_of_spells_alone (Json.spells_write store.isTextual_toJson)
  case indented =>
    exact deserialize?_of_spells_alone (Json.spells_writeIndented store.isTextual_toJson 0)
  case order => exact store.increasing.imp Text.encode_lt_encode
  case inside => exact fun spacing => deserialize?_document spacing store.spells_dump

end TiltMenu.Store
