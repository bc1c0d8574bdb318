import TiltMenu.CommandLine.Quoted

/-!
# Splitting as an automaton

Splitting reads a text from the left. What it does with a character depends on the mode
only: the character leads to another mode (`Mode.next`) and has an effect on what is split
off the rest (`Mode.effect`). Splitting a text and then some more is splitting the rest from
the mode that the text leads to (`splitFrom_append`).

A text can be split exactly when it leads to a complete mode (`isSome_splitChars?_iff`). Then
a newline at its end changes nothing (`splitChars?_append_newline`), while a carriage return
before that newline counts as a character of a word, unless it stands in a comment
(`splitChars?_append_return_iff`). Of the texts that cannot be split, a newline completes those
that end after a backslash outside quotes (`isSome_splitChars?_append_newline_iff`), and a
carriage return alone leaves no text incomplete that could be split (`splitChars?_of_append_return`).
-/

set_option autoImplicit false

namespace TiltMenu.CommandLine

/-! ## One character -/

namespace Mode

/-- The mode after a character. -/
def next (mode : Mode) (character : Char) : Mode :=
  match mode with
  | .between =>
    if isSeparator character then .between
    else if character = '#' then .comment
    else (enter character).1
  | .comment => if character = '\n' then .between else .comment
  | .bare => if isSeparator character then .between else (enter character).1
  | .escaped => .bare
  | .single => if character = '\'' then .bare else .single
  | .double =>
    if character = '"' then .bare else if character = '\\' then .doubleEscaped else .double
  | .doubleEscaped => .double

/-- What a character does to what is split off the text after it. -/
def effect (mode : Mode) (character : Char) : Split → Split :=
  match mode with
  | .between =>
    if isSeparator character then id
    else if character = '#' then id
    else Split.opening (enter character).2
  | .comment => id
  | .bare => if isSeparator character then id else Split.add (enter character).2
  | .escaped => Split.add (if character = '\n' then [] else [character])
  | .single => if character = '\'' then id else Split.add [character]
  | .double =>
    if character = '"' then id else if character = '\\' then id else Split.add [character]
  | .doubleEscaped =>
    Split.add
      (if character = '\n' then [] else if isDoubleEscapable character then [character]
        else ['\\', character])

/-- A text may end in this mode. -/
def isComplete : Mode → Bool
  | .between | .comment | .bare => true
  | .escaped | .single | .double | .doubleEscaped => false

end Mode

theorem splitFrom_nil (mode : Mode) :
    splitFrom mode [] = if mode.isComplete then some ⟨[], []⟩ else none := by
  cases mode <;> rfl

/-- **Splitting takes one character at a time.** -/
theorem splitFrom_cons (mode : Mode) (first : Char) (rest : List Char) :
    splitFrom mode (first :: rest) =
      (splitFrom (mode.next first) rest).map (mode.effect first) := by
  cases mode with
  | between =>
    simp only [splitFrom, Mode.next, Mode.effect]
    split
    · exact Option.map_id'.symm
    · split
      · exact Option.map_id'.symm
      · rfl
  | comment => exact Option.map_id'.symm
  | bare =>
    simp only [splitFrom, Mode.next, Mode.effect]
    split
    · exact Option.map_id'.symm
    · rfl
  | escaped => rfl
  | single =>
    simp only [splitFrom, Mode.next, Mode.effect]
    split
    · exact Option.map_id'.symm
    · rfl
  | double =>
    simp only [splitFrom, Mode.next, Mode.effect]
    split
    · exact Option.map_id'.symm
    · split
      · exact Option.map_id'.symm
      · rfl
  | doubleEscaped => rfl

/-! ## A text -/

namespace Mode

/-- The mode after a text. -/
def after (mode : Mode) (text : List Char) : Mode := text.foldl next mode

/-- What a text does to what is split off the text after it. -/
def effects (mode : Mode) : List Char → Split → Split
  | [] => id
  | first :: rest => mode.effect first ∘ (mode.next first).effects rest

end Mode

/-- **Splitting goes on from the mode that the text before leads to.** -/
theorem splitFrom_append (mode : Mode) (text rest : List Char) :
    splitFrom mode (text ++ rest) =
      (splitFrom (mode.after text) rest).map (mode.effects text) := by
  induction text generalizing mode with
  | nil => exact Option.map_id'.symm
  | cons first later ih =>
    rw [List.cons_append, splitFrom_cons, ih, Option.map_map]
    rfl

theorem splitFrom_eq (mode : Mode) (text : List Char) :
    splitFrom mode text =
      if (mode.after text).isComplete then some (mode.effects text ⟨[], []⟩) else none := by
  have whole := splitFrom_append mode text []
  rw [List.append_nil, splitFrom_nil] at whole
  rw [whole]
  split <;> rfl

/-- A text can be split exactly when it may end in the mode that it leads to. -/
theorem isSome_splitChars?_iff (text : List Char) :
    (splitChars? text).isSome ↔ (Mode.between.after text).isComplete = true := by
  rw [splitChars?, splitFrom_eq]
  split <;> simp_all

/-! ## Sizes -/

namespace Split

/-- The number of characters in all words. -/
def size (split : Split) : Nat := split.current.length + split.later.flatten.length

theorem size_add (characters : List Char) (split : Split) :
    (split.add characters).size = characters.length + split.size := by
  simp only [add, size, List.length_append]
  omega

theorem size_opening (characters : List Char) (split : Split) :
    (split.opening characters).size = characters.length + split.size := by
  simp only [opening, size, List.length_nil, List.flatten_cons, List.length_append]
  omega

end Split

theorem Mode.exists_size_effect (mode : Mode) (character : Char) :
    ∃ count, ∀ split : Split, (mode.effect character split).size = count + split.size := by
  have same : ∃ count, ∀ split : Split, (id split).size = count + split.size :=
    ⟨0, fun split => (Nat.zero_add split.size).symm⟩
  cases mode with
  | between =>
    simp only [effect]
    split
    · exact same
    · split
      · exact same
      · exact ⟨_, Split.size_opening _⟩
  | comment => exact same
  | bare =>
    simp only [effect]
    split
    · exact same
    · exact ⟨_, Split.size_add _⟩
  | escaped => exact ⟨_, Split.size_add _⟩
  | single =>
    simp only [effect]
    split
    · exact same
    · exact ⟨_, Split.size_add _⟩
  | double =>
    simp only [effect]
    split
    · exact same
    · split
      · exact same
      · exact ⟨_, Split.size_add _⟩
  | doubleEscaped => exact ⟨_, Split.size_add _⟩

/-- The number of characters that a text adds to the words does not depend on what follows
it. -/
theorem Mode.exists_size_effects (mode : Mode) (text : List Char) :
    ∃ count, ∀ split : Split, (mode.effects text split).size = count + split.size := by
  induction text generalizing mode with
  | nil => exact ⟨0, fun split => (Nat.zero_add split.size).symm⟩
  | cons first rest ih =>
    obtain ⟨own, sizeOwn⟩ := mode.exists_size_effect first
    obtain ⟨later, sizeLater⟩ := ih (mode.next first)
    refine ⟨own + later, fun split => ?_⟩
    rw [effects, Function.comp_apply, sizeOwn, sizeLater, Nat.add_assoc]

/-- Words that are split off a whole text tell the size of the split. -/
theorem size_of_splitFrom_between {text : List Char} {split : Split}
    (read : splitFrom .between text = some split) :
    split.size = split.later.flatten.length := by
  rw [Split.size, (current_splitFrom_between text).1 split read, List.length_nil, Nat.zero_add]

/-! ## Terminators -/

/-- The end of the text stands in a comment. -/
def EndsInComment (text : List Char) : Prop := Mode.between.after text = .comment

instance (text : List Char) : Decidable (EndsInComment text) :=
  inferInstanceAs (Decidable (Mode.between.after text = .comment))

/-- **A newline at the end of a text that can be split changes nothing.** -/
theorem splitChars?_append_newline {text : List Char} (splittable : (splitChars? text).isSome) :
    splitChars? (text ++ ['\n']) = splitChars? text := by
  have complete := (isSome_splitChars?_iff text).mp splittable
  have ended : splitFrom (Mode.between.after text) ['\n'] = some ⟨[], []⟩ := by
    cases mode : Mode.between.after text with
    | between => rfl
    | comment => rfl
    | bare => rfl
    | escaped => simp [mode, Mode.isComplete] at complete
    | single => simp [mode, Mode.isComplete] at complete
    | double => simp [mode, Mode.isComplete] at complete
    | doubleEscaped => simp [mode, Mode.isComplete] at complete
  rw [splitChars?, splitFrom_append, ended, splitChars?, splitFrom_eq, if_pos complete]
  rfl

/-- The text ends after a backslash that stands outside quotes. -/
def EndsEscaped (text : List Char) : Prop := Mode.between.after text = .escaped

instance (text : List Char) : Decidable (EndsEscaped text) :=
  inferInstanceAs (Decidable (Mode.between.after text = .escaped))

theorem Mode.after_concat (mode : Mode) (text : List Char) (last : Char) :
    mode.after (text ++ [last]) = (mode.after text).next last := by
  rw [after, after, List.foldl_append]
  rfl

theorem isComplete_after_of_splitChars?_eq_none {text : List Char}
    (unsplittable : splitChars? text = none) : (Mode.between.after text).isComplete = false := by
  rw [← Bool.not_eq_true, ← isSome_splitChars?_iff, unsplittable]
  exact Bool.false_ne_true

/-- **A newline behind a text that cannot be split makes it one that can exactly when the text
ends after a backslash outside quotes.** The newline is then escaped and dropped. Open quotes
stay open, also when a backslash inside them escapes the newline. -/
theorem isSome_splitChars?_append_newline_iff {text : List Char}
    (unsplittable : splitChars? text = none) :
    (splitChars? (text ++ ['\n'])).isSome ↔ EndsEscaped text := by
  have incomplete := isComplete_after_of_splitChars?_eq_none unsplittable
  rw [isSome_splitChars?_iff, Mode.after_concat, EndsEscaped]
  cases mode : Mode.between.after text with
  | between => simp [mode, Mode.isComplete] at incomplete
  | comment => simp [mode, Mode.isComplete] at incomplete
  | bare => simp [mode, Mode.isComplete] at incomplete
  | escaped => exact iff_of_true rfl rfl
  | single => exact iff_of_false (by decide) (by decide)
  | double => exact iff_of_false (by decide) (by decide)
  | doubleEscaped => exact iff_of_false (by decide) (by decide)

/-- A text that cannot be split with a carriage return behind it cannot be split without. -/
theorem splitChars?_of_append_return {text : List Char}
    (unsplittable : splitChars? (text ++ ['\r']) = none) : splitChars? text = none := by
  have incomplete := isComplete_after_of_splitChars?_eq_none unsplittable
  rw [Mode.after_concat] at incomplete
  rw [← Option.not_isSome_iff_eq_none, isSome_splitChars?_iff]
  intro complete
  cases mode : Mode.between.after text with
  | between => simp [mode, Mode.next, isSeparator, enter, Mode.isComplete] at incomplete
  | comment => simp [mode, Mode.next, Mode.isComplete] at incomplete
  | bare => simp [mode, Mode.next, isSeparator, enter, Mode.isComplete] at incomplete
  | escaped => simp [mode, Mode.isComplete] at complete
  | single => simp [mode, Mode.isComplete] at complete
  | double => simp [mode, Mode.isComplete] at complete
  | doubleEscaped => simp [mode, Mode.isComplete] at complete

/-- What a carriage return and a newline leave of a text that may end. -/
theorem splitFrom_return {mode : Mode} (complete : mode.isComplete = true) :
    (mode = .comment ∧ splitFrom mode ['\r', '\n'] = some ⟨[], []⟩) ∨
      mode ≠ .comment ∧ ∃ split, splitFrom mode ['\r', '\n'] = some split ∧ split.size = 1 := by
  cases mode with
  | between => exact .inr ⟨by decide, ⟨[], [['\r']]⟩, rfl, rfl⟩
  | comment => exact .inl ⟨rfl, rfl⟩
  | bare => exact .inr ⟨by decide, ⟨['\r'], []⟩, rfl, rfl⟩
  | escaped => cases complete
  | single => cases complete
  | double => cases complete
  | doubleEscaped => cases complete

theorem isSome_splitChars?_append_return {text : List Char}
    (splittable : (splitChars? text).isSome) :
    (splitChars? (text ++ ['\r', '\n'])).isSome := by
  rw [splitChars?, splitFrom_append]
  rcases splitFrom_return ((isSome_splitChars?_iff text).mp splittable) with
    ⟨_, ended⟩ | ⟨_, split, ended, _⟩
  · rw [ended]
    rfl
  · rw [ended]
    rfl

/-- **A carriage return and a newline at the end of a text that can be split change
nothing exactly when the text ends in a comment.** Outside comments the carriage return is
one more character of a word. -/
theorem splitChars?_append_return_iff {text : List Char}
    (splittable : (splitChars? text).isSome) :
    splitChars? (text ++ ['\r', '\n']) = splitChars? text ↔ EndsInComment text := by
  have complete := (isSome_splitChars?_iff text).mp splittable
  have plain : splitFrom .between text = some (Mode.between.effects text ⟨[], []⟩) := by
    rw [splitFrom_eq, if_pos complete]
  rcases splitFrom_return complete with ⟨comment, ended⟩ | ⟨other, split, ended, one⟩
  · rw [splitChars?, splitFrom_append, ended, splitChars?, plain]
    exact iff_of_true rfl comment
  · refine iff_of_false ?_ other
    intro same
    have longer : splitFrom .between (text ++ ['\r', '\n']) =
        some (Mode.between.effects text split) := by
      rw [splitFrom_append, ended]
      rfl
    rw [splitChars?, longer, splitChars?, plain, Option.map_some, Option.map_some,
      Option.some.injEq] at same
    obtain ⟨count, sizes⟩ := Mode.between.exists_size_effects text
    have more := sizes split
    have fewer := sizes ⟨[], []⟩
    rw [size_of_splitFrom_between longer, same, ← size_of_splitFrom_between plain, fewer, one]
      at more
    have empty : (⟨[], []⟩ : Split).size = 0 := rfl
    omega

end TiltMenu.CommandLine
