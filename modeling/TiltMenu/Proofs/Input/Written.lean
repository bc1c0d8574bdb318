import TiltMenu.CommandLine.Quoted
import TiltMenu.Proofs.Input.Answers
import TiltMenu.Proofs.Input.ScriptLines
import TiltMenu.Proofs.Store.Limits

/-!
# Command lines that were written

A command line with words can be written on one line if no word has a newline (`IsWritable`).
What is written begins and ends with a quote. So it is no blank line and no comment, whatever the
words are, it keeps a carriage return of its last word apart from the newline, and it can be
split with the newline and without (`splitChars?_quoteWords`).

A script that was written therefore has the lines that were written (`pieces_writeScript`), and
both a script and a line source read the command lines back.
-/

set_option autoImplicit false

namespace TiltMenu

open Text (pieces encodeChars)

namespace CommandLine

/-- The command line has words and can be written on one line. -/
structure IsWritable (commandLine : CommandLine) : Prop where
  worded : commandLine ≠ []
  oneLine : ∀ word ∈ commandLine, '\n' ∉ word.toList

/-- The line that writes a command line, without its newline. -/
def written (commandLine : CommandLine) : List Char := quoteWords (commandLine.map String.toList)

theorem toList_write (commandLine : CommandLine) :
    (write commandLine).toList = written commandLine ++ ['\n'] :=
  String.toList_ofList

/-! ## One line -/

theorem newline_mem_quoteChar {character : Char} (present : '\n' ∈ quoteChar character) :
    character = '\n' := by
  unfold quoteChar at present
  split at present
  · simp at present
  · exact (List.mem_singleton.mp present).symm

theorem newline_not_mem_quoteWord {word : List Char} (absent : '\n' ∉ word) :
    '\n' ∉ quoteWord word := by
  intro present
  simp only [quoteWord, List.mem_append, List.mem_cons, List.not_mem_nil, or_false,
    List.mem_flatMap] at present
  rcases present with (opening | ⟨character, member, here⟩) | closing
  · cases opening
  · exact absent (newline_mem_quoteChar here ▸ member)
  · cases closing

/-- Writing words adds no newline. -/
theorem newline_not_mem_quoteWords {words : List (List Char)}
    (absent : ∀ word ∈ words, '\n' ∉ word) : '\n' ∉ quoteWords words := by
  induction words with
  | nil => exact List.not_mem_nil
  | cons first rest ih =>
    obtain ⟨here, later⟩ := List.forall_mem_cons.mp absent
    cases rest with
    | nil => exact newline_not_mem_quoteWord here
    | cons second others =>
      rw [quoteWords]
      · refine List.not_mem_append (newline_not_mem_quoteWord here) ?_
        exact List.not_mem_cons_of_ne_of_not_mem (by decide) (ih later)
      · exact List.cons_ne_nil second others

/-- **What is written begins and ends with a quote.** -/
theorem exists_quoteWords {words : List (List Char)} (nonempty : words ≠ []) :
    ∃ body, quoteWords words = '\'' :: (body ++ ['\'']) := by
  induction words with
  | nil => exact absurd rfl nonempty
  | cons first rest ih =>
    cases rest with
    | nil => exact ⟨_, rfl⟩
    | cons second others =>
      obtain ⟨body, later⟩ := ih (List.cons_ne_nil second others)
      refine ⟨first.flatMap quoteChar ++ '\'' :: ' ' :: '\'' :: body, ?_⟩
      rw [quoteWords, later]
      · simp [quoteWord]
      · exact List.cons_ne_nil second others

/-- No text that ends with a quote ends after a backslash outside quotes. -/
theorem not_endsEscaped_concat_quote (text : List Char) : ¬ EndsEscaped (text ++ ['\'']) := by
  rw [EndsEscaped, Mode.after_concat]
  cases Mode.between.after text <;> decide

/-- **The words come back without the newline as well.** -/
theorem splitChars?_quoteWords {words : List (List Char)} (nonempty : words ≠ []) :
    splitChars? (quoteWords words) = some words := by
  have ended := splitChars?_writeLine words
  rw [writeLine] at ended
  obtain ⟨body, quoted⟩ := exists_quoteWords nonempty
  have last : quoteWords words = ('\'' :: body) ++ ['\''] := quoted
  have splittable : (splitChars? (quoteWords words)).isSome := by
    by_contra unsplittable
    rw [Option.not_isSome_iff_eq_none] at unsplittable
    have escaped := (isSome_splitChars?_append_newline_iff unsplittable).mp (by rw [ended]; rfl)
    rw [last] at escaped
    exact not_endsEscaped_concat_quote _ escaped
  rw [← splitChars?_append_newline splittable, ended]

theorem split?_of_toList {line : List Char} {commandLine : CommandLine}
    (split : splitChars? line = some (commandLine.map String.toList)) :
    split? (String.ofList line) = some commandLine := by
  rw [split?, String.toList_ofList, split, Option.map_some, List.map_map]
  simp [Function.comp_def]

/-- Splitting what was written gives the command line back, newlines in its words included. -/
theorem split?_write (commandLine : CommandLine) : split? (write commandLine) = some commandLine :=
  split?_of_toList (splitChars?_writeLine _)

namespace IsWritable

variable {commandLine : CommandLine}

theorem texts_ne_nil (writable : commandLine.IsWritable) : commandLine.map String.toList ≠ [] :=
  mt List.map_eq_nil_iff.mp writable.worded

theorem split?_written (writable : commandLine.IsWritable) :
    split? (String.ofList (written commandLine)) = some commandLine :=
  split?_of_toList (splitChars?_quoteWords writable.texts_ne_nil)

theorem isSkippable_written (writable : commandLine.IsWritable) :
    isSkippable (written commandLine) = false := by
  obtain ⟨body, quoted⟩ := exists_quoteWords writable.texts_ne_nil
  rw [written, quoted]
  rfl

theorem newline_not_mem_written (writable : commandLine.IsWritable) :
    '\n' ∉ written commandLine :=
  newline_not_mem_quoteWords (List.forall_mem_map.mpr writable.oneLine)

/-- The line stands in a script as it is: a quote is its last character. -/
theorem carries (writable : commandLine.IsWritable) :
    Script.Carries (written commandLine) commandLine where
  oneLine := writable.newline_not_mem_written
  ending := by
    obtain ⟨body, quoted⟩ := exists_quoteWords writable.texts_ne_nil
    rw [written, quoted, ← List.cons_append, List.getLast?_concat]
    decide
  kept := writable.isSkippable_written
  split := writable.split?_written

end IsWritable

/-! ## Scripts -/

theorem toList_writeScript (commandLines : List CommandLine) :
    (writeScript commandLines).toList =
      commandLines.flatMap fun commandLine => written commandLine ++ ['\n'] := by
  rw [writeScript, String.toList_join, List.flatMap_map]
  simp only [toList_write]

/-- **The lines of what was written are those that were written.** -/
theorem pieces_writeScript {commandLines : List CommandLine}
    (writable : ∀ commandLine ∈ commandLines, commandLine.IsWritable) :
    pieces (· == '\n') (writeScript commandLines).toList =
      commandLines.map fun commandLine => written commandLine ++ ['\n'] :=
  Script.pieces_of_carries (fun commandLine member => (writable commandLine member).carries)
    (toList_writeScript commandLines)

end CommandLine

open CommandLine (IsWritable isSkippable split? write written writeScript pieces_writeScript)

namespace Script

variable {commandLines : List CommandLine}
  (writable : ∀ commandLine ∈ commandLines, commandLine.IsWritable)

include writable

/-- **A script that was written has the command lines that were written.** -/
theorem commands_writeScript : commands (writeScript commandLines) = commandLines := by
  have read := commands_of_carries
    (fun commandLine member => (writable commandLine member).carries)
    (CommandLine.toList_writeScript commandLines)
  rwa [List.map_id'] at read

/-- There is no warning about it. -/
theorem warnings_writeScript : warnings (writeScript commandLines) = [] :=
  warnings_of_carries (fun commandLine member => (writable commandLine member).carries)
    (CommandLine.toList_writeScript commandLines)

end Script

/-! ## Line sources -/

namespace Input.LineSource

/-- The bytes of a line that was written are read as its command line. -/
theorem attemptOf_written {commandLine : CommandLine} (writable : commandLine.IsWritable) :
    attemptOf (encodeChars (written commandLine ++ ['\n'])) = .command commandLine := by
  have split : split? (String.ofList (written commandLine ++ ['\n'])) = some commandLine :=
    CommandLine.split?_write commandLine
  rw [attemptOf, ofRaw_encodeChars (by simp), Attempt.ofLineRead, String.toList_ofList,
    CommandLine.isSkippable_append_newline, writable.isSkippable_written, split]
  rfl

variable {source : LineSource} {commandLines : List CommandLine}
  (writable : ∀ commandLine ∈ commandLines, commandLine.IsWritable)

include writable

/-- The lines of the bytes of a script that was written. -/
theorem rawLines_writeScript :
    rawLines (Text.encode (writeScript commandLines)) =
      commandLines.map fun commandLine => encodeChars (written commandLine ++ ['\n']) := by
  rw [Text.encode_eq, rawLines]
  show pieces (· == 10) _ = _
  rw [Text.pieces_encodeChars, pieces_writeScript writable, List.map_map]
  rfl

/-- **A line source reads back what was written.** -/
theorem handed_writeScript (quiet : Undisturbed source.chunks)
    (whole : delivered source.chunks = Text.encode (writeScript commandLines)) :
    handed source = commandLines := by
  rw [handed_lineSource quiet, whole, rawLines_writeScript writable, List.filterMap_map]
  have read : ∀ commandLine ∈ commandLines,
      (commandOfBytes? ∘ fun commandLine => encodeChars (written commandLine ++ ['\n']))
        commandLine = some commandLine := by
    intro commandLine member
    have attempted := attemptOf_written (writable commandLine member)
    rw [attemptOf] at attempted
    rw [Function.comp_apply, commandOfBytes?, attempted]
    rfl
  rw [List.filterMap_congr read, List.filterMap_some]

/-- It logs nothing, however often it is asked. -/
theorem events_answers_writeScript (quiet : Undisturbed source.chunks)
    (whole : delivered source.chunks = Text.encode (writeScript commandLines)) (count : Nat) :
    (answers source count).flatMap (·.events) = [] := by
  have cut := rawLines_writeScript writable
  rw [← whole] at cut
  rw [(answers_eq quiet cut count).2, List.flatMap_eq_nil_iff]
  intro line read
  obtain ⟨commandLine, member, rfl⟩ := List.mem_map.mp (mem_of_mem_linesRead read)
  rw [lineEvents, attemptOf_written (writable commandLine member)]
  rfl

end Input.LineSource

/-! ## Texts in the store -/

/-- **Any text can be stored under a key that holds a text and may be written.** -/
theorem Store.run_set_text {store : Store} (consistent : store.IsConsistent)
    {key content : String} (present : store.get? key = some ⟨.text content, .readWrite⟩)
    (value : String) :
    let ran := store.run [Store.Verb.set.name, key, value]
    ran.succeeded = true ∧ Store.Rewritten store ran.state key (.text value) := by
  have parsed : store.parseValue key value = .ok (.text value) := by
    simp only [Store.parseValue, present]
  have read : Store.Request.parse store (Store.assignment key value) =
      .ok (.set key (.text value)) := by
    rw [Store.parse_assignment, parsed]
    rfl
  have admissible : (Store.Request.set key (.text value)).Admissible store :=
    Store.isConsistent_withValue_text consistent present value
  intro ran
  refine ⟨(store.run_succeeded_iff _).mpr ⟨_, read, admissible⟩, ?_⟩
  have state : ran.state = store.withValue key (.text value) :=
    Store.state_run_of_parse read admissible
  rw [state]
  exact Store.rewritten_withValue ⟨_, present, rfl⟩

/-- **Every command line with words can be written in a script**, unless a word has a newline.
The words may be empty and may have quotes, backslashes, comment signs, carriage returns and any
blanks. The script and a line source over its bytes, in any chunks, give back the command lines
that were written, and there is no warning. So any text can be stored, by the line that writes the
command, under a key that holds a text and may be written. -/
theorem written_script_reads_back {commandLines : List CommandLine}
    (writable : ∀ commandLine ∈ commandLines, commandLine.IsWritable) :
    (Script.commands (writeScript commandLines) = commandLines ∧
      Script.warnings (writeScript commandLines) = []) ∧
    (∀ source : Input.LineSource, Input.Undisturbed source.chunks →
      Input.delivered source.chunks = Text.encode (writeScript commandLines) →
      Input.handed source = commandLines ∧
        ∀ count, (Input.answers source count).flatMap (·.events) = []) ∧
    ∀ (store : Store) (key content value : String), store.IsConsistent →
      store.get? key = some ⟨.text content, .readWrite⟩ →
      ∃ commandLine, split? (write [Store.Verb.set.name, key, value]) = some commandLine ∧
        (store.run commandLine).succeeded = true ∧
        Store.Rewritten store (store.run commandLine).state key (.text value) := by
  refine ⟨⟨Script.commands_writeScript writable, Script.warnings_writeScript writable⟩, ?_, ?_⟩
  · intro source quiet whole
    exact ⟨Input.LineSource.handed_writeScript writable quiet whole,
      Input.LineSource.events_answers_writeScript writable quiet whole⟩
  · intro store key content value consistent present
    exact ⟨_, CommandLine.split?_write _, Store.run_set_text consistent present value⟩

/-- Words with quotes, a backslash, a comment sign and a carriage return at the end, an empty
word and a blank one, read in two chunks with an interruption in between. -/
theorem written_script_reads_back_of_quotes :
    let commandLines : List CommandLine :=
      [["setdb", "vendor_code", "it's \"#\" \\\r"], ["", "#", "\u00a0"]]
    let bytes := Text.encode (writeScript commandLines)
    let source : Input.LineSource :=
      { chunks := [.bytes (bytes.take 7), .failure .interrupted "signal", .bytes (bytes.drop 7)] }
    Script.commands (writeScript commandLines) = commandLines ∧
      Input.handed source = commandLines ∧
      ∃ commandLine,
        split? (write ["setdb", "vendor_code", "it's \"#\" \\\r"]) = some commandLine ∧
        (Store.defaults.run commandLine).state.get? "vendor_code" =
          some ⟨.text "it's \"#\" \\\r", .readWrite⟩ := by
  intro commandLines bytes source
  have writable : ∀ commandLine ∈ commandLines, commandLine.IsWritable := by
    simp only [commandLines, List.forall_mem_cons, List.not_mem_nil, false_imp_iff, implies_true,
      and_true]
    exact ⟨⟨by decide, by decide⟩, ⟨by decide, by decide⟩⟩
  have quiet : Input.Undisturbed source.chunks := by
    simp [source, Input.Undisturbed, Input.Chunk.isQuiet]
  have whole : Input.delivered source.chunks = bytes := by
    simp [source, Input.delivered, Input.Chunk.content]
  obtain ⟨⟨script, _⟩, sources, stores⟩ := written_script_reads_back writable
  obtain ⟨commandLine, split, _, rewritten⟩ :=
    stores Store.defaults "vendor_code" "AL" "it's \"#\" \\\r" Store.isConsistent_defaults rfl
  exact ⟨script, (sources source quiet whole).1, commandLine, split, rewritten.written⟩

end TiltMenu
