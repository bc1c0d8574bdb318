import TiltMenu.CommandLine.Words

/-!
# Writing a command line

Any words can be written on a line: each is enclosed in single quotes, and a single
quote inside a word is written by closing the quotes, escaping it and opening the quotes
again. Words are separated by one space, and a newline ends the line.

Splitting a written line gives its words back (`splitChars?_writeLine`).
-/

set_option autoImplicit false

namespace TiltMenu.CommandLine

/-! ## The quoted form -/

/-- A character inside single quotes. -/
def quoteChar (character : Char) : List Char :=
  if character = '\'' then ['\'', '\\', '\'', '\''] else [character]

/-- A word in single quotes. -/
def quoteWord (word : List Char) : List Char := '\'' :: word.flatMap quoteChar ++ ['\'']

/-- Words in single quotes with a space between each two. -/
def quoteWords : List (List Char) → List Char
  | [] => []
  | [last] => quoteWord last
  | first :: rest => quoteWord first ++ ' ' :: quoteWords rest

/-- A line with some words. -/
def writeLine (words : List (List Char)) : List Char := quoteWords words ++ ['\n']

/-- The line that writes a command line. -/
def write (commandLine : CommandLine) : String :=
  String.ofList (writeLine (commandLine.map String.toList))

/-- The script that writes some command lines, each on a line of its own. -/
def writeScript (commandLines : List CommandLine) : String :=
  String.join (commandLines.map write)

/-! ## Splitting what was written -/

/-- Nothing is left of an open word where a word may begin. -/
theorem current_splitFrom_between (text : List Char) :
    (∀ split, splitFrom .between text = some split → split.current = []) ∧
      ∀ split, splitFrom .comment text = some split → split.current = [] := by
  induction text with
  | nil => simp [splitFrom]
  | cons first rest ih =>
    constructor
    · intro split read
      simp only [splitFrom] at read
      split at read
      · exact ih.1 split read
      · split at read
        · exact ih.2 split read
        · obtain ⟨later, _, rfl⟩ := Option.map_eq_some_iff.mp read
          rfl
    · intro split read
      simp only [splitFrom] at read
      split at read
      · exact ih.1 split read
      · exact ih.2 split read

/-- A single quote in its written form adds itself to the word. -/
theorem splitFrom_quoteChar (character : Char) (rest : List Char) :
    splitFrom .single (quoteChar character ++ rest) =
      (splitFrom .single rest).map (Split.add [character]) := by
  by_cases quote : character = '\''
  · subst quote
    have unchanged (split : Split) : split.add [] = split := rfl
    simp [quoteChar, splitFrom, enter, isSeparator, Option.map_map, Function.comp_def, unchanged]
  · simp [quoteChar, splitFrom, quote]

/-- The written form of the rest of a word adds the rest to the word. -/
theorem splitFrom_quoted (word rest : List Char) :
    splitFrom .single (word.flatMap quoteChar ++ '\'' :: rest) =
      (splitFrom .bare rest).map (Split.add word) := by
  induction word with
  | nil =>
    have unchanged : Split.add [] = id := rfl
    simp [splitFrom, unchanged]
  | cons first later ih =>
    rw [List.flatMap_cons, List.append_assoc, splitFrom_quoteChar, ih, Option.map_map]
    rfl

/-- A written word before a separator is a word on its own. -/
theorem splitFrom_quoteWord (word rest : List Char) (separator : Char)
    (separates : isSeparator separator) :
    splitFrom .between (quoteWord word ++ separator :: rest) =
      (splitFrom .between rest).map fun split => ⟨[], word :: split.later⟩ := by
  have opened : splitFrom .between (quoteWord word ++ separator :: rest) =
      (splitFrom .single (word.flatMap quoteChar ++ '\'' :: separator :: rest)).map
        (Split.opening []) := by
    simp [quoteWord, splitFrom, enter, isSeparator]
  rw [opened, splitFrom_quoted, Option.map_map]
  simp only [splitFrom, separates, ↓reduceIte]
  cases read : splitFrom .between rest with
  | none => rfl
  | some split =>
    simp [Split.opening, Split.add, (current_splitFrom_between rest).1 split read]

/-- Splitting a written line gives its words back. -/
theorem splitChars?_writeLine (words : List (List Char)) :
    splitChars? (writeLine words) = some words := by
  suffices general : splitFrom .between (writeLine words) = some ⟨[], words⟩ by
    simp [splitChars?, general]
  induction words with
  | nil => rfl
  | cons first rest ih =>
    match rest with
    | [] =>
      rw [writeLine, quoteWords, splitFrom_quoteWord first [] '\n' rfl]
      rfl
    | second :: others =>
      rw [writeLine, quoteWords, List.append_assoc, List.cons_append,
        splitFrom_quoteWord first _ ' ' rfl]
      · rw [writeLine] at ih
        rw [ih]
        rfl
      · simp

end TiltMenu.CommandLine
