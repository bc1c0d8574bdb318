import TiltMenu.Proofs.Json.Scalars
import TiltMenu.Proofs.Json.Spelling

/-!
# Values read back

The reader takes every text that writes a value for that value, whatever blanks stand between its
tokens and around it (`parse?_of_spells`).

The reader takes a bound for its steps. The proof is by induction on that bound: with one step
more it reads every text that is half a character longer (`ReadsSpelled`), since of two steps at
least one takes a character.
-/

set_option autoImplicit false

namespace TiltMenu.Json

/-! ## Skipping blanks -/

theorem isJsonBlank_iff (character : Char) :
    isJsonBlank character = true ↔ character ∈ [' ', '\t', '\n', '\r'] := by
  simp [isJsonBlank, or_assoc]

/-- Blanks in front are skipped. -/
theorem skipBlanks_append {before : List Char} (blank : Blank before) (text : List Char) :
    skipBlanks (before ++ text) = skipBlanks text :=
  List.dropWhile_append_of_pos blank

theorem skipBlanks_cons {first : Char} (visible : isJsonBlank first = false) (rest : List Char) :
    skipBlanks (first :: rest) = first :: rest :=
  List.dropWhile_cons_of_neg (by simp [visible])

/-- Blanks in front are skipped up to the first other character. -/
theorem skipBlanks_append_cons {before : List Char} (blank : Blank before) (first : Char)
    (visible : isJsonBlank first = false) (rest : List Char) :
    skipBlanks (before ++ first :: rest) = first :: rest := by
  rw [skipBlanks_append blank, skipBlanks_cons visible]

/-- Skipping blanks twice is skipping them once. -/
theorem skipBlanks_skipBlanks (text : List Char) :
    skipBlanks (skipBlanks text) = skipBlanks text := by
  induction text with
  | nil => rfl
  | cons first rest ih =>
    cases visible : isJsonBlank first with
    | true =>
      have skipped : skipBlanks (first :: rest) = skipBlanks rest :=
        List.dropWhile_cons_of_pos visible
      rw [skipped, ih]
    | false => rw [skipBlanks_cons visible, skipBlanks_cons visible]

/-- Blanks do not make a number before them longer. -/
theorem endsNumber_append {blanks rest : List Char} (blank : Blank blanks)
    (ends : EndsNumber rest) : EndsNumber (blanks ++ rest) := by
  cases blanks with
  | nil => exact ends
  | cons first others =>
    have shown := (isJsonBlank_iff first).mp (blank first List.mem_cons_self)
    simp only [List.mem_cons, List.not_mem_nil, or_false] at shown
    rcases shown with rfl | rfl | rfl | rfl <;> exact endsNumber_cons (by decide) (by decide) _

/-! ## Scalars -/

/-- A digit or a minus sign is none of some other marks. -/
theorem not_mem_of_numeric {first : Char} (numeric : first.isDigit = true ∨ first = '-')
    {marks : List Char} (apart : marks.all (fun mark => !mark.isDigit && mark != '-') = true) :
    first ∉ marks := by
  intro member
  have other := List.all_eq_true.mp apart first member
  rcases numeric with digit | rfl
  · simp [digit] at other
  · simp at other

/-- A text that begins with a digit or a minus sign is read as a number. -/
theorem readScalar_of_number {first : Char} (numeric : first.isDigit = true ∨ first = '-')
    (rest : List Char) : readScalar (first :: rest) = readNumber (first :: rest) := by
  have other : first ∉ ['n', 't', 'f', '"'] := not_mem_of_numeric numeric (by decide)
  -- every other way of reading begins with one of these letters
  rw [readScalar] <;>
    · intro _ same
      cases same
      exact other (by decide)

/-- An integer begins with a digit or a minus sign. -/
theorem exists_repr (value : Int) :
    ∃ first rest, value.repr.toList = first :: rest ∧ (first.isDigit = true ∨ first = '-') := by
  by_cases natural : 0 ≤ value
  · obtain ⟨first, rest, digits, digit⟩ := Text.exists_toDigits_eq_cons value.toNat
    exact ⟨first, rest, by rw [Text.toList_repr_of_nonneg natural, digits], .inl digit⟩
  · exact ⟨'-', _, Text.toList_repr_of_neg (by omega), .inr rfl⟩

/-- **A scalar that is written is read back.** -/
theorem readScalar_writeScalar {value : Json} (plain : value.IsPlain) {rest : List Char}
    (ends : EndsNumber rest) : readScalar (writeScalar value ++ rest) = some (value, rest) := by
  cases value with
  | null => rfl
  | bool value => cases value <;> rfl
  | integer value =>
    obtain ⟨first, later, form, numeric⟩ := exists_repr value
    have read := readNumber_repr value ends
    rw [form, List.cons_append] at read
    rw [writeScalar, form, List.cons_append, readScalar_of_number numeric, read]
  | decimal => cases plain
  | string content =>
    cases content with
    | none => cases plain
    | some content =>
      have read := readString_writeString content rest
      rw [writeScalar, writeString]
      simp only [List.cons_append, List.append_assoc, List.nil_append]
      rw [readScalar, read]
      rfl
  | array items => cases plain
  | object members => cases plain

/-- The first character of a scalar is visible and no bracket or brace. -/
theorem exists_writeScalar {value : Json} (plain : value.IsPlain) :
    ∃ first rest, writeScalar value = first :: rest ∧ isJsonBlank first = false ∧
      first ∉ ['[', ']', '{', '}'] := by
  cases value with
  | null => exact ⟨_, _, rfl, by decide, by decide⟩
  | bool value => cases value <;> exact ⟨_, _, rfl, by decide, by decide⟩
  | integer value =>
    obtain ⟨first, later, form, numeric⟩ := exists_repr value
    refine ⟨first, later, form, ?_, not_mem_of_numeric numeric (by decide)⟩
    rw [Bool.eq_false_iff, Ne, isJsonBlank_iff]
    exact not_mem_of_numeric numeric (by decide)
  | decimal => cases plain
  | string content =>
    cases content with
    | none => cases plain
    | some content => exact ⟨_, _, rfl, by decide, by decide⟩
  | array items => cases plain
  | object members => cases plain

/-! ## Where a value begins -/

/-- The first character of a value is visible and closes nothing. -/
theorem Spells.exists_cons {value : Json} {text : List Char} (spelled : Spells value text) :
    ∃ first rest, text = first :: rest ∧ isJsonBlank first = false ∧ first ∉ [']', '}'] := by
  cases spelled with
  | scalar plain =>
    obtain ⟨first, rest, form, visible, other⟩ := exists_writeScalar plain
    refine ⟨first, rest, form, visible, fun member => other ?_⟩
    simp only [List.mem_cons, List.not_mem_nil, or_false] at member ⊢
    exact member.elim (fun same => .inr (.inl same)) fun same => .inr (.inr (.inr same))
  | emptyArray blank => exact ⟨_, _, rfl, by decide, by decide⟩
  | array items => exact ⟨_, _, rfl, by decide, by decide⟩
  | emptyObject blank => exact ⟨_, _, rfl, by decide, by decide⟩
  | object members => exact ⟨_, _, rfl, by decide, by decide⟩

/-- The items of an array do not begin with its closing bracket. -/
theorem SpellsItems.exists_skipBlanks {items : List Json} {text : List Char}
    (spelled : SpellsItems items text) (rest : List Char) :
    ∃ first later, skipBlanks (text ++ rest) = first :: later ∧ first ≠ ']' := by
  have begins : ∃ value before own behind, Blank before ∧ Spells value own ∧
      text = before ++ (own ++ behind) := by
    cases spelled with
    | last front item back => exact ⟨_, _, _, _, front, item, rfl⟩
    | more front item back others => exact ⟨_, _, _, _, front, item, rfl⟩
  obtain ⟨value, before, own, behind, front, item, rfl⟩ := begins
  obtain ⟨first, later, rfl, visible, notClosing⟩ := item.exists_cons
  refine ⟨first, later ++ (behind ++ rest), ?_, ?_⟩
  · simpa using skipBlanks_append_cons front first visible (later ++ (behind ++ rest))
  · rintro rfl
    exact notClosing (by decide)

/-- The members of an object begin with a quote. -/
theorem SpellsMembers.exists_skipBlanks {members : List (Option String × Json)} {text : List Char}
    (spelled : SpellsMembers members text) (rest : List Char) :
    ∃ later, skipBlanks (text ++ rest) = '"' :: later := by
  cases spelled with
  | last front _ _ _ _ =>
    simp only [List.append_assoc, writeString, List.cons_append]
    exact ⟨_, skipBlanks_append_cons front '"' (by decide) _⟩
  | more front _ _ _ _ _ =>
    simp only [List.append_assoc, writeString, List.cons_append]
    exact ⟨_, skipBlanks_append_cons front '"' (by decide) _⟩

/-! ## Reading a value -/

/-- The reader of values skips blanks first. -/
theorem readValue_skipBlanks (steps : Nat) (text : List Char) :
    readValue steps (skipBlanks text) = readValue steps text := by
  cases steps with
  | zero => rfl
  | succ steps => simp only [readValue, skipBlanks_skipBlanks]

theorem readItems_skipBlanks (steps : Nat) (text : List Char) :
    readItems steps (skipBlanks text) = readItems steps text := by
  cases steps with
  | zero => rfl
  | succ steps => simp only [readItems, readValue_skipBlanks]

theorem readMembers_skipBlanks (steps : Nat) (text : List Char) :
    readMembers steps (skipBlanks text) = readMembers steps text := by
  cases steps with
  | zero => rfl
  | succ steps => simp only [readMembers, skipBlanks_skipBlanks]

theorem readValue_append (steps : Nat) {before : List Char} (blank : Blank before)
    (text : List Char) : readValue steps (before ++ text) = readValue steps text := by
  rw [← readValue_skipBlanks, skipBlanks_append blank, readValue_skipBlanks]

/-- A value that begins with no bracket and no brace is a scalar. -/
theorem readValue_of_scalar {first : Char} (visible : isJsonBlank first = false)
    (other : first ∉ ['[', ']', '{', '}']) (steps : Nat) (rest : List Char) :
    readValue (steps + 1) (first :: rest) = readScalar (first :: rest) := by
  rw [readValue, skipBlanks_cons visible]
  split
  · next same =>
    cases same
    exact absurd (by decide) other
  · next same =>
    cases same
    exact absurd (by decide) other
  · rfl

/-- A bracket before what does not close it opens an array with items. -/
theorem readValue_bracket {text later : List Char} {first : Char}
    (skipped : skipBlanks text = first :: later) (notClosing : first ≠ ']') (steps : Nat) :
    readValue (steps + 1) ('[' :: text) =
      (readItems steps text).map fun read => (.array read.1, read.2) := by
  have visible : isJsonBlank '[' = false := by decide
  rw [readValue, skipBlanks_cons visible]
  simp only [skipped]
  split
  · next same =>
    cases same
    exact absurd rfl notClosing
  · rw [← skipped, readItems_skipBlanks]

/-- A brace before what does not close it opens an object with members. -/
theorem readValue_brace {text later : List Char} {first : Char}
    (skipped : skipBlanks text = first :: later) (notClosing : first ≠ '}') (steps : Nat) :
    readValue (steps + 1) ('{' :: text) =
      (readMembers steps text).map fun read => (.object read.1, read.2) := by
  have visible : isJsonBlank '{' = false := by decide
  rw [readValue, skipBlanks_cons visible]
  simp only [skipped]
  split
  · next same =>
    cases same
    exact absurd rfl notClosing
  · rw [← skipped, readMembers_skipBlanks]

/-- With a number of steps the reader takes every text of fewer than half as many characters for
what it writes. -/
structure ReadsSpelled (steps : Nat) : Prop where
  value : ∀ {value : Json} {text rest : List Char}, Spells value text → EndsNumber rest →
    2 * text.length < steps → readValue steps (text ++ rest) = some (value, rest)
  items : ∀ {items : List Json} {text rest : List Char}, SpellsItems items text →
    2 * text.length < steps → readItems steps (text ++ rest) = some (items, rest)
  members : ∀ {members : List (Option String × Json)} {text rest : List Char},
    SpellsMembers members text →
    2 * text.length < steps → readMembers steps (text ++ rest) = some (members, rest)

namespace ReadsSpelled

variable {steps : Nat} {text rest : List Char}

/-- A value takes one step more than what is inside it. -/
theorem value_succ (reads : ReadsSpelled steps) {value : Json} (spelled : Spells value text)
    (ends : EndsNumber rest) (enough : 2 * text.length < steps + 1) :
    readValue (steps + 1) (text ++ rest) = some (value, rest) := by
  cases spelled with
  | scalar plain =>
    obtain ⟨first, later, form, visible, other⟩ := exists_writeScalar plain
    have read := readScalar_writeScalar plain ends
    rw [form] at read ⊢
    rw [List.cons_append, readValue_of_scalar visible other]
    exact read
  | @emptyArray inside blank =>
    have closed := skipBlanks_append_cons blank ']' (by decide) rest
    have visible : isJsonBlank '[' = false := by decide
    simp only [List.cons_append, List.append_assoc, List.nil_append]
    rw [readValue, skipBlanks_cons visible]
    simp only [closed]
  | @array items inside spelled =>
    obtain ⟨first, later, skipped, notClosing⟩ := spelled.exists_skipBlanks rest
    rw [List.length_cons] at enough
    rw [List.cons_append, readValue_bracket skipped notClosing, reads.items spelled (by omega)]
    rfl
  | @emptyObject inside blank =>
    have closed := skipBlanks_append_cons blank '}' (by decide) rest
    have visible : isJsonBlank '{' = false := by decide
    simp only [List.cons_append, List.append_assoc, List.nil_append]
    rw [readValue, skipBlanks_cons visible]
    simp only [closed]
  | @object members inside spelled =>
    obtain ⟨later, skipped⟩ := spelled.exists_skipBlanks rest
    rw [List.length_cons] at enough
    rw [List.cons_append, readValue_brace skipped (by decide), reads.members spelled (by omega)]
    rfl

/-- An item is read and then what stands behind it. -/
theorem items_succ (reads : ReadsSpelled steps) {items : List Json}
    (spelled : SpellsItems items text) (enough : 2 * text.length < steps + 1) :
    readItems (steps + 1) (text ++ rest) = some (items, rest) := by
  cases spelled with
  | @last value before own after front spelled back =>
    simp only [List.length_append, List.length_cons, List.length_nil] at enough
    -- an item that is a number goes no further than the blanks or the mark behind it
    have ends : EndsNumber (after ++ ']' :: rest) :=
      endsNumber_append back (endsNumber_cons (by decide) (by decide) rest)
    have first := reads.value spelled ends (by omega)
    have closed := skipBlanks_append_cons back ']' (by decide) rest
    simp only [List.append_assoc, List.cons_append, List.nil_append]
    simp only [readItems, readValue_append steps front, first, closed]
  | @more value others before own after later front spelled back more =>
    simp only [List.length_append, List.length_cons] at enough
    have ends : EndsNumber (after ++ ',' :: (later ++ rest)) :=
      endsNumber_append back (endsNumber_cons (by decide) (by decide) _)
    have first := reads.value spelled ends (by omega)
    have closed := skipBlanks_append_cons back ',' (by decide) (later ++ rest)
    simp only [List.append_assoc, List.cons_append]
    simp only [readItems, readValue_append steps front, first, closed,
      reads.items more (by omega), Option.map_some]

/-- A member is read, name and value, and then what stands behind it. -/
theorem members_succ (reads : ReadsSpelled steps) {members : List (Option String × Json)}
    (spelled : SpellsMembers members text) (enough : 2 * text.length < steps + 1) :
    readMembers (steps + 1) (text ++ rest) = some (members, rest) := by
  cases spelled with
  | @last name value before behind inner own after front colon inside spelled back =>
    simp only [List.length_append, List.length_cons, List.length_nil] at enough
    have ends : EndsNumber (after ++ '}' :: rest) :=
      endsNumber_append back (endsNumber_cons (by decide) (by decide) rest)
    have first := reads.value spelled ends (by omega)
    have closed := skipBlanks_append_cons back '}' (by decide) rest
    simp only [writeString, List.append_assoc, List.cons_append, List.nil_append]
    simp only [readMembers, skipBlanks_append_cons front '"' (by decide),
      readString_writeString, skipBlanks_append_cons colon ':' (by decide),
      readValue_append steps inside, first, closed]
  | @more name value others before behind inner own after later front colon inside spelled back
      more =>
    simp only [List.length_append, List.length_cons] at enough
    have ends : EndsNumber (after ++ ',' :: (later ++ rest)) :=
      endsNumber_append back (endsNumber_cons (by decide) (by decide) _)
    have first := reads.value spelled ends (by omega)
    have closed := skipBlanks_append_cons back ',' (by decide) (later ++ rest)
    simp only [writeString, List.append_assoc, List.cons_append, List.nil_append]
    simp only [readMembers, skipBlanks_append_cons front '"' (by decide),
      readString_writeString, skipBlanks_append_cons colon ':' (by decide),
      readValue_append steps inside, first, closed, reads.members more (by omega),
      Option.map_some]

/-- Texts that are short enough for a number of steps are read. -/
protected theorem of_steps (steps : Nat) : ReadsSpelled steps := by
  induction steps with
  | zero =>
    exact ⟨fun _ _ enough => absurd enough (Nat.not_lt_zero _),
      fun _ enough => absurd enough (Nat.not_lt_zero _),
      fun _ enough => absurd enough (Nat.not_lt_zero _)⟩
  | succ steps reads => exact ⟨reads.value_succ, reads.items_succ, reads.members_succ⟩

end ReadsSpelled

/-- **A text that writes a value is read as that value**, whatever blanks are around it. -/
theorem parse?_of_spells {value : Json} {before text after : List Char} (front : Blank before)
    (spelled : Spells value text) (back : Blank after) :
    parse? (before ++ (text ++ after)) = some value := by
  have ends : EndsNumber after := by simpa using endsNumber_append back endsNumber_nil
  have read := (ReadsSpelled.of_steps (2 * (before ++ (text ++ after)).length + 2)).value spelled
    ends (by simp only [List.length_append]; omega)
  have skipped : skipBlanks after = [] := by
    simpa [skipBlanks] using skipBlanks_append back []
  rw [parse?, readValue_append _ front, read]
  exact if_pos skipped

end TiltMenu.Json
