import Mathlib.Data.List.Basic
import TiltMenu.Proofs.Input.ScriptLines

/-!
# Words that need no quotes

A character is plain if it is no blank and means nothing to the splitting of a line: it is no
quote, no backslash and no comment sign (`isPlain`). A word of plain characters stands for itself
on a line (`splitFrom_between_plain`), so plain words with a space between each two are split into
these words (`split?_intercalate`), and their line can stand in a script (`carries_intercalate`).
-/

set_option autoImplicit false

namespace TiltMenu.CommandLine

/-! ## Characters -/

/-- The character stands for itself wherever it stands on a line. -/
def isPlain (character : Char) : Bool :=
  !Text.isBlank character && character != '"' && character != '\'' && character != '\\'
    && character != '#'

/-- A word of at least one character, all of them plain. -/
structure IsPlainWord (word : List Char) : Prop where
  nonempty : word ≠ []
  plain : ∀ character ∈ word, isPlain character = true

section Character

variable {character : Char} (plain : isPlain character = true)

include plain

theorem isBlank_of_plain : Text.isBlank character = false := by
  simp only [isPlain, Bool.and_eq_true, Bool.not_eq_true'] at plain
  exact plain.1.1.1.1

theorem isSeparator_of_plain : isSeparator character = false := by
  cases separates : isSeparator character with
  | false => rfl
  | true =>
    simp only [isSeparator, Bool.or_eq_true, beq_iff_eq] at separates
    rcases separates with (rfl | rfl) | rfl
    · cases plain
    · cases plain
    · cases plain

theorem ne_comment_of_plain : character ≠ '#' := by
  rintro rfl
  cases plain

/-- A plain character adds itself to the word that it stands in. -/
theorem enter_of_plain : enter character = (.bare, [character]) := by
  unfold enter
  split
  · cases plain
  · cases plain
  · cases plain
  · rfl

end Character

/-- Decimal digits are plain. -/
theorem isPlain_of_isDigit {character : Char} (digit : character.isDigit = true) :
    isPlain character = true := by
  have bounds : 48 ≤ character.toNat ∧ character.toNat ≤ 57 := Char.isDigit_iff_toNat.mp digit
  have notBlank : Text.isBlank character = false := by
    simp only [Text.isBlank, Bool.or_eq_false_iff, Bool.and_eq_false_iff, decide_eq_false_iff_not,
      beq_eq_false_iff_ne]
    omega
  have differs : ∀ other : Char, other.toNat < 48 ∨ 57 < other.toNat → character ≠ other := by
    rintro other outside rfl
    omega
  simp [isPlain, notBlank, differs '"' (by decide), differs '\'' (by decide),
    differs '\\' (by decide), differs '#' (by decide)]

/-! ## Words -/

/-- Plain characters in a word add themselves to the word. -/
theorem splitFrom_bare_plain {word : List Char}
    (plain : ∀ character ∈ word, isPlain character = true) (rest : List Char) :
    splitFrom .bare (word ++ rest) = (splitFrom .bare rest).map (Split.add word) := by
  induction word with
  | nil => exact Option.map_id'.symm
  | cons first later ih =>
    obtain ⟨here, others⟩ := List.forall_mem_cons.mp plain
    rw [List.cons_append, splitFrom, isSeparator_of_plain here, enter_of_plain here, ih others,
      Option.map_map]
    rfl

/-- **A plain word begins where a word may begin, and adds itself.** -/
theorem splitFrom_between_plain {word : List Char} (plain : IsPlainWord word) (rest : List Char) :
    splitFrom .between (word ++ rest) = (splitFrom .bare rest).map (Split.opening word) := by
  obtain ⟨first, later, rfl⟩ := List.exists_cons_of_ne_nil plain.nonempty
  obtain ⟨here, others⟩ := List.forall_mem_cons.mp plain.plain
  rw [List.cons_append, splitFrom, isSeparator_of_plain here, enter_of_plain here,
    if_neg (ne_comment_of_plain here), splitFrom_bare_plain others, Option.map_map]
  rfl

/-- **Plain words with a space between each two are split into these words.** -/
theorem splitFrom_intercalate {words : List (List Char)}
    (plain : ∀ word ∈ words, IsPlainWord word) :
    splitFrom .between ([' '].intercalate words) = some ⟨[], words⟩ := by
  induction words with
  | nil => rfl
  | cons first rest ih =>
    obtain ⟨here, others⟩ := List.forall_mem_cons.mp plain
    cases rest with
    | nil =>
      have alone := splitFrom_between_plain here []
      rw [List.append_nil] at alone
      rw [List.intercalate_singleton, alone]
      simp [splitFrom, Split.opening]
    | cons second later =>
      rw [List.intercalate_cons_cons, List.append_assoc, splitFrom_between_plain here,
        List.singleton_append, splitFrom, if_pos (by decide), ih others]
      simp [Split.opening]

/-- The characters of plain words with spaces between them. -/
theorem plain_or_space_of_mem_intercalate {words : List (List Char)}
    (plain : ∀ word ∈ words, IsPlainWord word) {character : Char}
    (member : character ∈ [' '].intercalate words) :
    isPlain character = true ∨ character = ' ' := by
  induction words with
  | nil => cases member
  | cons first rest ih =>
    obtain ⟨here, others⟩ := List.forall_mem_cons.mp plain
    cases rest with
    | nil =>
      rw [List.intercalate_singleton] at member
      exact .inl (here.plain character member)
    | cons second later =>
      rw [List.intercalate_cons_cons, List.mem_append, List.mem_append, List.mem_singleton]
        at member
      rcases member with (inFirst | space) | inLater
      · exact .inl (here.plain character inFirst)
      · exact .inr space
      · exact ih others inLater

theorem split?_intercalate {words : List String}
    (plain : ∀ word ∈ words, IsPlainWord word.toList) :
    split? (" ".intercalate words) = some words := by
  have read : splitFrom .between (" ".intercalate words).toList =
      some ⟨[], words.map String.toList⟩ := by
    rw [String.toList_intercalate]
    exact splitFrom_intercalate (List.forall_mem_map.mpr plain)
  rw [split?, splitChars?, read]
  simp [Function.comp_def]

/-! ## Lines -/

theorem isSkippable_cons_of_plain {first : Char} (plain : isPlain first = true)
    (rest : List Char) : isSkippable (first :: rest) = false := by
  rw [isSkippable, Text.trimStart,
    List.dropWhile_cons_of_neg (by simp [isBlank_of_plain plain])]
  exact beq_eq_false_iff_ne.mpr (ne_comment_of_plain plain)

/-- A line of plain words is not skipped. -/
theorem isSkippable_intercalate {words : List (List Char)}
    (plain : ∀ word ∈ words, IsPlainWord word) (nonempty : words ≠ []) :
    isSkippable ([' '].intercalate words) = false := by
  obtain ⟨word, rest, rfl⟩ := List.exists_cons_of_ne_nil nonempty
  have begins := plain word List.mem_cons_self
  obtain ⟨first, later, rfl⟩ := List.exists_cons_of_ne_nil begins.nonempty
  have here := begins.plain first List.mem_cons_self
  cases rest with
  | nil =>
    rw [List.intercalate_singleton]
    exact isSkippable_cons_of_plain here later
  | cons second others =>
    rw [List.intercalate_cons_cons, List.append_assoc, List.cons_append]
    exact isSkippable_cons_of_plain here _

/-- **Plain words with a space between each two are a line of a script that carries them.** -/
theorem carries_intercalate {words : List String}
    (plain : ∀ word ∈ words, IsPlainWord word.toList) (nonempty : words ≠ []) :
    Script.Carries (" ".intercalate words).toList words := by
  have spelled : (" ".intercalate words).toList = [' '].intercalate (words.map String.toList) :=
    String.toList_intercalate
  have texts := List.forall_mem_map.mpr plain
  have absent : ∀ character, isPlain character = false → character ≠ ' ' →
      character ∉ (" ".intercalate words).toList := by
    intro character special other member
    rw [spelled] at member
    rcases plain_or_space_of_mem_intercalate texts member with ordinary | space
    · rw [special] at ordinary
      cases ordinary
    · exact other space
  refine ⟨absent '\n' (by decide) (by decide), ?ending, ?kept, ?split⟩
  case ending =>
    intro last
    exact absent '\r' (by decide) (by decide) (List.mem_of_getLast? last)
  case kept =>
    rw [spelled]
    exact isSkippable_intercalate texts (mt List.map_eq_nil_iff.mp nonempty)
  case split =>
    rw [String.ofList_toList]
    exact split?_intercalate plain

end TiltMenu.CommandLine
