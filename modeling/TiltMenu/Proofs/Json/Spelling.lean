import TiltMenu.Json.Reader
import TiltMenu.Json.Writer

/-!
# Texts that write a value

A text writes a JSON value if it has the tokens of the value in their order, with any blanks
between them (`Spells`). Numbers are written with the fewest digits and strings with the fewest
escapes; where the blanks stand is free.

Both forms of the writer are such texts (`spells_write`, `spells_writeIndented`), as long as every
string and every name in the value is a text and every number an integer (`IsTextual`).
-/

set_option autoImplicit false

namespace TiltMenu.Json

/-! ## Blanks and plain values -/

/-- The text has blanks only. -/
def Blank (text : List Char) : Prop := ∀ character ∈ text, isJsonBlank character = true

theorem blank_nil : Blank [] := List.forall_mem_nil _

/-- The value is no container, and it is an integer if it is a number, a text if it is a string. -/
def IsPlain : Json → Prop
  | .null | .bool _ | .integer _ | .string (some _) => True
  | .decimal | .string none | .array _ | .object _ => False

/-! ## Texts of a value -/

mutual

/-- The text writes the value, with nothing around it. -/
inductive Spells : Json → List Char → Prop where
  | scalar {value : Json} (plain : value.IsPlain) : Spells value (writeScalar value)
  | emptyArray {inside : List Char} (blank : Blank inside) :
      Spells (.array []) ('[' :: (inside ++ [']']))
  | array {items : List Json} {text : List Char} (spelled : SpellsItems items text) :
      Spells (.array items) ('[' :: text)
  | emptyObject {inside : List Char} (blank : Blank inside) :
      Spells (.object []) ('{' :: (inside ++ ['}']))
  | object {members : List (Option String × Json)} {text : List Char}
      (spelled : SpellsMembers members text) : Spells (.object members) ('{' :: text)

/-- The text writes the items of an array, of which there are some, and its closing bracket. -/
inductive SpellsItems : List Json → List Char → Prop where
  | last {value : Json} {before text after : List Char} (front : Blank before)
      (spelled : Spells value text) (back : Blank after) :
      SpellsItems [value] (before ++ (text ++ (after ++ [']'])))
  | more {value : Json} {rest : List Json} {before text after later : List Char}
      (front : Blank before) (spelled : Spells value text) (back : Blank after)
      (others : SpellsItems rest later) :
      SpellsItems (value :: rest) (before ++ (text ++ (after ++ ',' :: later)))

/-- The text writes the members of an object, of which there are some, and its closing brace. -/
inductive SpellsMembers : List (Option String × Json) → List Char → Prop where
  | last {name : String} {value : Json} {before behind inner text after : List Char}
      (front : Blank before) (colon : Blank behind) (inside : Blank inner)
      (spelled : Spells value text) (back : Blank after) :
      SpellsMembers [(some name, value)]
        (before ++ (writeString (some name) ++ (behind ++ ':' :: (inner ++ (text ++ (after
          ++ ['}']))))))
  | more {name : String} {value : Json} {rest : List (Option String × Json)}
      {before behind inner text after later : List Char}
      (front : Blank before) (colon : Blank behind) (inside : Blank inner)
      (spelled : Spells value text) (back : Blank after) (others : SpellsMembers rest later) :
      SpellsMembers ((some name, value) :: rest)
        (before ++ (writeString (some name) ++ (behind ++ ':' :: (inner ++ (text ++ (after
          ++ ',' :: later))))))

end

/-! ## What is written -/

/-- Every string and every name in the value is a text, and every number is an integer. -/
inductive IsTextual : Json → Prop where
  | scalar {value : Json} (plain : value.IsPlain) : IsTextual value
  | array {items : List Json} (all : ∀ item ∈ items, IsTextual item) : IsTextual (.array items)
  | object {members : List (Option String × Json)}
      (named : ∀ member ∈ members, member.1.isSome = true)
      (all : ∀ member ∈ members, IsTextual member.2) : IsTextual (.object members)

/-- A value that is no container is written alike in both forms. -/
theorem IsPlain.write_eq {value : Json} (plain : value.IsPlain) :
    value.write = writeScalar value := by
  cases value <;> first | rfl | cases plain

theorem IsPlain.writeIndented_eq {value : Json} (plain : value.IsPlain) (depth : Nat) :
    value.writeIndented depth = writeScalar value := by
  cases value <;> first | rfl | cases plain

/-- Items that are written are spelled if each of them is. -/
theorem spellsItems_writeItems {items : List Json} (nonempty : items ≠ [])
    (all : ∀ item ∈ items, Spells item item.write) : SpellsItems items (writeItems items) := by
  induction items with
  | nil => exact absurd rfl nonempty
  | cons first rest ih =>
    obtain ⟨spelled, others⟩ := List.forall_mem_cons.mp all
    cases rest with
    | nil => exact .last blank_nil spelled blank_nil
    | cons second later =>
      exact .more blank_nil spelled blank_nil (ih (List.cons_ne_nil _ _) others)

theorem spellsMembers_writeMembers {members : List (Option String × Json)}
    (nonempty : members ≠ []) (named : ∀ member ∈ members, member.1.isSome = true)
    (all : ∀ member ∈ members, Spells member.2 member.2.write) :
    SpellsMembers members (writeMembers members) := by
  induction members with
  | nil => exact absurd rfl nonempty
  | cons first rest ih =>
    obtain ⟨title, value⟩ := first
    obtain ⟨isName, names⟩ := List.forall_mem_cons.mp named
    obtain ⟨spelled, others⟩ := List.forall_mem_cons.mp all
    obtain ⟨name, rfl⟩ := Option.isSome_iff_exists.mp isName
    cases rest with
    | nil =>
      have written := @SpellsMembers.last name value _ _ _ _ _ blank_nil blank_nil blank_nil
        spelled blank_nil
      simpa [writeMembers] using written
    | cons second later =>
      have written := @SpellsMembers.more name value _ _ _ _ _ _ _ blank_nil blank_nil blank_nil
        spelled blank_nil (ih (List.cons_ne_nil _ _) names others)
      simpa [writeMembers] using written

/-- **The compact form of a value writes it.** -/
theorem spells_write {value : Json} (textual : value.IsTextual) : Spells value value.write := by
  induction textual with
  | scalar plain =>
    rw [plain.write_eq]
    exact .scalar plain
  | @array items _ all =>
    cases items with
    | nil => exact .emptyArray blank_nil
    | cons first rest => exact .array (spellsItems_writeItems (List.cons_ne_nil _ _) all)
  | @object members named _ all =>
    cases members with
    | nil => exact .emptyObject blank_nil
    | cons first rest =>
      exact .object (spellsMembers_writeMembers (List.cons_ne_nil _ _) named all)

theorem blank_lineBreak (depth : Nat) : Blank (lineBreak depth) := by
  refine List.forall_mem_cons.mpr ⟨by decide, fun character member => ?_⟩
  rw [List.eq_of_mem_replicate member]
  decide

theorem blank_space : Blank [' '] := List.forall_mem_singleton.mpr (by decide)

theorem spellsItems_writeIndentedItems {items : List Json} (nonempty : items ≠ [])
    (depth outer : Nat) (all : ∀ item ∈ items, Spells item (item.writeIndented depth)) :
    SpellsItems items (writeIndentedItems depth items ++ lineBreak outer ++ [']']) := by
  induction items with
  | nil => exact absurd rfl nonempty
  | cons first rest ih =>
    obtain ⟨spelled, others⟩ := List.forall_mem_cons.mp all
    cases rest with
    | nil =>
      have written := SpellsItems.last (blank_lineBreak depth) spelled (blank_lineBreak outer)
      simpa [writeIndentedItems] using written
    | cons second later =>
      have written := SpellsItems.more (blank_lineBreak depth) spelled blank_nil
        (ih (List.cons_ne_nil _ _) others)
      simpa [writeIndentedItems] using written

theorem spellsMembers_writeIndentedMembers {members : List (Option String × Json)}
    (nonempty : members ≠ []) (depth outer : Nat)
    (named : ∀ member ∈ members, member.1.isSome = true)
    (all : ∀ member ∈ members, Spells member.2 (member.2.writeIndented depth)) :
    SpellsMembers members (writeIndentedMembers depth members ++ lineBreak outer ++ ['}']) := by
  induction members with
  | nil => exact absurd rfl nonempty
  | cons first rest ih =>
    obtain ⟨title, value⟩ := first
    obtain ⟨isName, names⟩ := List.forall_mem_cons.mp named
    obtain ⟨spelled, others⟩ := List.forall_mem_cons.mp all
    obtain ⟨name, rfl⟩ := Option.isSome_iff_exists.mp isName
    cases rest with
    | nil =>
      have written := @SpellsMembers.last name value _ _ _ _ _ (blank_lineBreak depth) blank_nil
        blank_space spelled (blank_lineBreak outer)
      simpa [writeIndentedMembers] using written
    | cons second later =>
      have written := @SpellsMembers.more name value _ _ _ _ _ _ _ (blank_lineBreak depth)
        blank_nil blank_space spelled blank_nil (ih (List.cons_ne_nil _ _) names others)
      simpa [writeIndentedMembers] using written

/-- **The indented form of a value writes it**, whatever its depth is. -/
theorem spells_writeIndented {value : Json} (textual : value.IsTextual) (depth : Nat) :
    Spells value (value.writeIndented depth) := by
  induction textual generalizing depth with
  | scalar plain =>
    rw [plain.writeIndented_eq]
    exact .scalar plain
  | @array items _ all =>
    cases items with
    | nil => exact .emptyArray blank_nil
    | cons first rest =>
      have written := spellsItems_writeIndentedItems (List.cons_ne_nil first rest) (depth + 1) depth
        fun item member => all item member (depth + 1)
      exact .array (by simpa using written)
  | @object members named _ all =>
    cases members with
    | nil => exact .emptyObject blank_nil
    | cons first rest =>
      have written := spellsMembers_writeIndentedMembers (List.cons_ne_nil first rest) (depth + 1)
        depth named fun member inside => all member inside (depth + 1)
      exact .object (by simpa using written)

end TiltMenu.Json
