import Mathlib.Data.List.Basic
import Mathlib.Data.List.TakeWhile
import TiltMenu.Input.LineSource
import TiltMenu.Proofs.Text.Pieces

/-!
# Reading command lines from bytes

How the bytes are cut into chunks cannot be seen: reading a line from a reader that does not
fail takes the first piece of the bytes that are left (`takeLine_eq`). What the reader does
behind a line does not matter for the line (`takeLine_append`). What an attempt can come to that
takes a line is listed once (`LineSource.Tries`). A line source hands out what its lines come to,
one command line for each line that carries one, until the bytes are used up (`handed_lineSource`).

When the bytes are the UTF-8 form of a text, the lines are the pieces of the text
(`handed_of_encode`).
-/

set_option autoImplicit false

namespace TiltMenu.Input

open Text (pieces)

/-! ## Chunks -/

/-- The bytes that a chunk brings. -/
def Chunk.content : Chunk → List UInt8
  | .bytes content => content
  | .failure _ _ => []

/-- The chunk brings bytes, or the reader is interrupted and goes on. -/
def Chunk.isQuiet : Chunk → Bool
  | .bytes _ | .failure .interrupted _ => true
  | .failure _ _ => false

/-- The bytes that a reader delivers in the end. -/
def delivered (chunks : List Chunk) : List UInt8 := chunks.flatMap Chunk.content

/-- The reader does not fail. -/
def Undisturbed (chunks : List Chunk) : Prop := ∀ chunk ∈ chunks, chunk.isQuiet = true

theorem Undisturbed.tail {chunk : Chunk} {chunks : List Chunk}
    (quiet : Undisturbed (chunk :: chunks)) : Undisturbed chunks := fun other member =>
  quiet other (List.mem_cons_of_mem chunk member)

/-- Dropping what comes before the first newline leaves nothing if and only if there is no
newline. -/
theorem dropWhile_newline_eq_nil_iff (content : List UInt8) :
    content.dropWhile (· != newline) = [] ↔ newline ∉ content := by
  rw [List.dropWhile_eq_nil_iff]
  constructor
  · intro plain member
    simpa using plain newline member
  · intro absent byte member
    rw [bne_iff_ne]
    rintro rfl
    exact absent member

theorem newline_not_mem_takeWhile (content : List UInt8) :
    newline ∉ content.takeWhile (· != newline) := by
  intro member
  simpa using List.mem_takeWhile_imp member

/-- **A line from a reader that does not fail reaches up to the next newline**, on top of
what was collected, or up to the end of the input if no newline is left. -/
theorem takeLine_of_undisturbed {collected : List UInt8} {chunks : List Chunk}
    (quiet : Undisturbed chunks) (inside : newline ∉ collected) :
    ∃ line left, takeLine collected chunks = (.bytes line, left) ∧ Undisturbed left ∧
      (newline ∉ line ∧ delivered left = [] ∧ line = collected ++ delivered chunks ∨
        ∃ body, newline ∉ body ∧ line = body ++ [newline] ∧
          collected ++ delivered chunks = body ++ newline :: delivered left) := by
  fun_induction takeLine collected chunks with
  | case1 collected =>
    exact ⟨collected, [], rfl, quiet, .inl ⟨inside, rfl, (List.append_nil _).symm⟩⟩
  | case2 collected reason rest ih => exact ih quiet.tail inside
  | case3 collected kind reason rest other =>
    have loud := quiet _ List.mem_cons_self
    cases kind with
    | interrupted => exact absurd rfl other
    | invalidData => cases loud
    | other => cases loud
  | case4 collected content rest absent ih =>
    have plain := (dropWhile_newline_eq_nil_iff content).mp absent
    obtain ⟨line, left, taken, calm, shape⟩ :=
      ih quiet.tail (List.not_mem_append inside plain)
    rw [List.append_assoc] at shape
    exact ⟨line, left, taken, calm, shape⟩
  | case5 collected content rest ending left found =>
    have cut : content.takeWhile (· != newline) ++ ending :: left = content :=
      found ▸ List.takeWhile_append_dropWhile
    have ends : ending = newline := by
      have first := List.head?_dropWhile_not (· != newline) content
      rw [found] at first
      simpa using first
    subst ends
    refine ⟨_, _, rfl, ?_, .inr ⟨collected ++ content.takeWhile (· != newline),
      List.not_mem_append inside (newline_not_mem_takeWhile content), rfl, ?_⟩⟩
    · exact List.forall_mem_cons.mpr ⟨rfl, quiet.tail⟩
    · rw [delivered, List.flatMap_cons, ← delivered, List.append_assoc]
      show collected ++ (content ++ delivered rest) =
        collected ++ (content.takeWhile (· != newline) ++ newline :: (left ++ delivered rest))
      rw [← List.cons_append, ← List.append_assoc (content.takeWhile _), cut]

/-- The lines of the bytes, each with its newline. -/
def rawLines (bytes : List UInt8) : List (List UInt8) := pieces (· == newline) bytes

/-- Bytes without a newline are one line. -/
theorem rawLines_of_newline_not_mem {bytes : List UInt8} (absent : newline ∉ bytes)
    (present : bytes ≠ []) : rawLines bytes = [bytes] :=
  Text.pieces_of_inside (Text.inside_of_not_mem absent) present

/-- The first newline ends the first line. -/
theorem rawLines_append_newline {body : List UInt8} (absent : newline ∉ body)
    (rest : List UInt8) :
    rawLines (body ++ newline :: rest) = (body ++ [newline]) :: rawLines rest :=
  Text.pieces_append_end (Text.inside_of_not_mem absent) rfl rest

/-- **Reading a line takes the first line of the bytes that are left.** At the end of the
input there is none, and the line is empty. -/
theorem takeLine_eq {chunks : List Chunk} (quiet : Undisturbed chunks) :
    ∃ left, takeLine [] chunks = (.bytes ((rawLines (delivered chunks)).headD []), left) ∧
      Undisturbed left ∧ rawLines (delivered left) = (rawLines (delivered chunks)).tail := by
  obtain ⟨line, left, taken, calm, shape⟩ :=
    takeLine_of_undisturbed quiet (List.not_mem_nil (a := newline))
  rcases shape with ⟨absent, used, rfl⟩ | ⟨body, absent, rfl, whole⟩
  · rw [List.nil_append] at taken absent
    by_cases nothing : delivered chunks = []
    · rw [nothing] at taken ⊢
      exact ⟨left, taken, calm, by rw [used]; rfl⟩
    · rw [rawLines_of_newline_not_mem absent nothing]
      exact ⟨left, taken, calm, by rw [used]; rfl⟩
  · rw [List.nil_append] at whole
    rw [whole, rawLines_append_newline absent]
    exact ⟨left, taken, calm, rfl⟩

/-! ## Chunks behind a line -/

theorem delivered_append (front rest : List Chunk) :
    delivered (front ++ rest) = delivered front ++ delivered rest :=
  List.flatMap_append

theorem delivered_cons_bytes (content : List UInt8) (rest : List Chunk) :
    delivered (.bytes content :: rest) = content ++ delivered rest :=
  List.flatMap_cons

/-- A line that ends in the first chunks does not depend on the others. -/
theorem takeLine_append_of_newline_mem {front : List Chunk} (quiet : Undisturbed front)
    (ends : newline ∈ delivered front) (collected : List UInt8) (rest : List Chunk) :
    takeLine collected (front ++ rest) =
      ((takeLine collected front).1, (takeLine collected front).2 ++ rest) := by
  induction front generalizing collected with
  | nil => cases ends
  | cons chunk later ih =>
    cases chunk with
    | failure kind reason =>
      cases kind with
      | interrupted => exact ih quiet.tail ends collected
      | invalidData => cases quiet _ List.mem_cons_self
      | other => cases quiet _ List.mem_cons_self
    | bytes content =>
      simp only [List.cons_append, takeLine]
      split
      · next absent =>
        have plain := (dropWhile_newline_eq_nil_iff content).mp absent
        rw [delivered_cons_bytes, List.mem_append] at ends
        exact ih quiet.tail (ends.resolve_left plain) _
      · rfl

/-- Chunks without a newline are collected. -/
theorem takeLine_append_of_newline_not_mem {front : List Chunk} (quiet : Undisturbed front)
    (absent : newline ∉ delivered front) (collected : List UInt8) (rest : List Chunk) :
    takeLine collected (front ++ rest) = takeLine (collected ++ delivered front) rest := by
  induction front generalizing collected with
  | nil => exact congrArg (takeLine · rest) (List.append_nil collected).symm
  | cons chunk later ih =>
    cases chunk with
    | failure kind reason =>
      cases kind with
      | interrupted => exact ih quiet.tail absent collected
      | invalidData => cases quiet _ List.mem_cons_self
      | other => cases quiet _ List.mem_cons_self
    | bytes content =>
      rw [delivered_cons_bytes, List.mem_append, not_or] at absent
      have whole := (dropWhile_newline_eq_nil_iff content).mpr absent.1
      simp only [List.cons_append, takeLine, whole]
      rw [ih quiet.tail absent.2, delivered_cons_bytes, List.append_assoc]

/-- **The next line of a reader is read whatever the reader does behind it**, failures
included. -/
theorem takeLine_append {front : List Chunk} {body following : List UInt8}
    (quiet : Undisturbed front) (inside : newline ∉ body)
    (whole : delivered front = body ++ newline :: following) (rest : List Chunk) :
    ∃ left, takeLine [] (front ++ rest) = (.bytes (body ++ [newline]), left ++ rest) ∧
      Undisturbed left ∧ delivered left = following := by
  obtain ⟨left, taken, calm, later⟩ := takeLine_eq quiet
  have ends : newline ∈ delivered front := by
    rw [whole]
    exact List.mem_append_right body List.mem_cons_self
  rw [whole, rawLines_append_newline inside] at taken later
  refine ⟨left, ?_, calm, ?_⟩
  · rw [takeLine_append_of_newline_mem quiet ends, taken]
    rfl
  · have same := congrArg List.flatten later
    rw [rawLines, Text.flatten_pieces] at same
    exact same.trans (Text.flatten_pieces _ following)

/-! ## Sources -/

/-- The command lines that a source hands out until it is exhausted. -/
def handed {ς : Type} [Source ς] (source : ς) : List CommandLine :=
  match _found : (Source.next source).commandLine with
  | none => []
  | some commandLine => commandLine :: handed (Source.next source).source
termination_by Source.left source
decreasing_by exact Source.left_next_lt source (by rw [_found]; rfl)

section Handing

variable {ς : Type} [Source ς]

theorem handed_of_exhausted {source : ς} (exhausted : (Source.next source).commandLine = none) :
    handed source = [] := by
  rw [handed]
  split
  · rfl
  · next commandLine found =>
    rw [exhausted] at found
    cases found

theorem handed_of_next {source : ς} {commandLine : CommandLine}
    (found : (Source.next source).commandLine = some commandLine) :
    handed source = commandLine :: handed (Source.next source).source := by
  rw [handed]
  split
  · next exhausted =>
    rw [exhausted] at found
    cases found
  · next other same =>
    rw [found] at same
    cases same
    rfl

/-- Sources whose next answers are alike hand out the same. -/
theorem handed_congr {first second : ς}
    (commandLine : (Source.next first).commandLine = (Source.next second).commandLine)
    (source : (Source.next first).source = (Source.next second).source) :
    handed first = handed second := by
  cases answer : (Source.next second).commandLine with
  | none => rw [handed_of_exhausted answer, handed_of_exhausted (commandLine.trans answer)]
  | some held =>
    rw [handed_of_next answer, handed_of_next (commandLine.trans answer), source]

/-- What holds of every answer holds of everything that is handed out. -/
theorem of_mem_handed {property : CommandLine → Prop}
    (answered : ∀ (source : ς) (commandLine : CommandLine),
      (Source.next source).commandLine = some commandLine → property commandLine)
    {source : ς} {commandLine : CommandLine} (member : commandLine ∈ handed source) :
    property commandLine := by
  fun_induction handed source with
  | case1 source exhausted => cases member
  | case2 source first found ih =>
    rcases List.mem_cons.mp member with rfl | later
    · exact answered source _ found
    · exact ih later

end Handing

/-! ## Line sources -/

namespace LineSource

/-- What an attempt can come to that takes a line. -/
inductive Tries : RawLine → Attempt → Prop where
  | endOfInput : Tries (.bytes []) .exhausted
  | malformed (reason : String) : Tries (.failed .invalidData reason) (.undecodable reason)
  | failed {kind : Failure} (reason : String) (fatal : kind ≠ .invalidData) :
      Tries (.failed kind reason) (.failed reason)
  | undecodable {line : List UInt8} (nonempty : line ≠ []) (noText : Text.decode? line = none) :
      Tries (.bytes line) (.undecodable "stream did not contain valid UTF-8")
  | skipped {line : List UInt8} {text : String} (nonempty : line ≠ [])
      (decoded : Text.decode? line = some text)
      (skippable : CommandLine.isSkippable text.toList = true) : Tries (.bytes line) .skipped
  | unsplittable {line : List UInt8} {text : String} (nonempty : line ≠ [])
      (decoded : Text.decode? line = some text)
      (kept : CommandLine.isSkippable text.toList = false)
      (unsplit : CommandLine.split? text = none) : Tries (.bytes line) (.unsplittable text)
  | command {line : List UInt8} {text : String} {commandLine : CommandLine} (nonempty : line ≠ [])
      (decoded : Text.decode? line = some text)
      (kept : CommandLine.isSkippable text.toList = false)
      (split : CommandLine.split? text = some commandLine) :
      Tries (.bytes line) (.command commandLine)

/-- **Every attempt comes to one of these.** -/
theorem tries (line : RawLine) : Tries line (.ofLineRead (.ofRaw line)) := by
  match line with
  | .failed .invalidData reason => exact .malformed reason
  | .failed .interrupted reason => exact .failed reason (by decide)
  | .failed .other reason => exact .failed reason (by decide)
  | .bytes [] => exact .endOfInput
  | .bytes (first :: rest) =>
    have nonempty : first :: rest ≠ [] := List.cons_ne_nil first rest
    simp only [LineRead.ofRaw]
    cases decoded : Text.decode? (first :: rest) with
    | none => exact .undecodable nonempty decoded
    | some text =>
      simp only [Attempt.ofLineRead]
      cases skips : CommandLine.isSkippable text.toList with
      | true => exact .skipped nonempty decoded skips
      | false =>
        cases split : CommandLine.split? text with
        | none => exact .unsplittable nonempty decoded skips split
        | some commandLine => exact .command nonempty decoded skips split

/-- The command line that the bytes of a line carry, if they carry one. -/
def commandOfBytes? (line : List UInt8) : Option CommandLine :=
  (Attempt.ofLineRead (.ofRaw (.bytes line))).commandLine?

/-- **A line that is not empty ends the search exactly when it carries a command line.** -/
theorem isFinal_of_bytes {line : List UInt8} (nonempty : line ≠ []) :
    (Attempt.ofLineRead (.ofRaw (.bytes line))).isFinal = (commandOfBytes? line).isSome := by
  have way := tries (.bytes line)
  rw [commandOfBytes?]
  generalize Attempt.ofLineRead (.ofRaw (.bytes line)) = attempt at way ⊢
  cases way with
  | endOfInput => exact absurd rfl nonempty
  | undecodable => rfl
  | skipped => rfl
  | unsplittable => rfl
  | command => rfl

/-- An attempt leaves the prompt as it is. -/
theorem prompt_advance (source : LineSource) : source.advance.prompt = source.prompt := by
  show source.showPrompt.prompt = source.prompt
  unfold showPrompt
  split <;> rfl

theorem next_of_final {source : LineSource} (final : source.attempt.isFinal = true) :
    next source = ⟨source.attempt.commandLine?, source.advance, source.attempt.events⟩ := by
  rw [next, if_pos final]

/-- After an attempt that is not final the source answers as it does behind the line. -/
theorem next_of_not_final {source : LineSource} (searching : source.attempt.isFinal = false) :
    next source =
      { next source.advance with
        events := source.attempt.events ++ (next source.advance).events } := by
  rw [next, searching]
  rfl

theorem handed_of_not_final {source : LineSource} (searching : source.attempt.isFinal = false) :
    handed source = handed source.advance := by
  have later := next_of_not_final searching
  refine handed_congr ?_ ?_
  · show (next source).commandLine = (next source.advance).commandLine
    rw [later]
  · show (next source).source = (next source.advance).source
    rw [later]

/-- One attempt takes the first line of the bytes that are left. -/
theorem attempt_of_undisturbed {source : LineSource} (quiet : Undisturbed source.chunks) :
    source.attempt =
        .ofLineRead (.ofRaw (.bytes ((rawLines (delivered source.chunks)).headD []))) ∧
      Undisturbed source.advance.chunks ∧
      rawLines (delivered source.advance.chunks) = (rawLines (delivered source.chunks)).tail := by
  obtain ⟨left, taken, calm, later⟩ := takeLine_eq quiet
  have advanced : source.advance.chunks = left := by
    rw [advance, readLine, taken]
  rw [attempt, readLine, taken, advanced]
  exact ⟨rfl, calm, later⟩

/-- **A line source over a reader that does not fail hands out the command lines of its
lines.** -/
theorem handed_lineSource {source : LineSource} (quiet : Undisturbed source.chunks) :
    handed source = (rawLines (delivered source.chunks)).filterMap commandOfBytes? := by
  generalize rest : rawLines (delivered source.chunks) = lines
  induction lines generalizing source with
  | nil =>
    have exhausted : source.attempt = .exhausted := by
      rw [(attempt_of_undisturbed quiet).1, rest]
      rfl
    refine handed_of_exhausted ?_
    show (next source).commandLine = none
    rw [next_of_final (by rw [exhausted]; rfl), exhausted]
    rfl
  | cons line others ih =>
    obtain ⟨tried, calm, later⟩ := attempt_of_undisturbed quiet
    rw [rest] at tried later
    have onward := ih calm later
    have nonempty : line ≠ [] :=
      (Text.shape_of_mem_pieces (rest ▸ List.mem_cons_self : line ∈ rawLines _)).1
    have final := isFinal_of_bytes nonempty
    cases carried : commandOfBytes? line with
    | none =>
      rw [carried] at final
      rw [List.filterMap_cons_none carried, ← onward]
      exact handed_of_not_final (by rw [tried]; exact final)
    | some commandLine =>
      rw [carried] at final
      have answer : next source =
          ⟨source.attempt.commandLine?, source.advance, source.attempt.events⟩ :=
        next_of_final (by rw [tried]; exact final)
      have found : (Source.next source).commandLine = some commandLine := by
        show (next source).commandLine = some commandLine
        rw [answer, tried]
        exact carried
      rw [List.filterMap_cons_some carried, handed_of_next found, ← onward]
      show commandLine :: handed (next source).source = _
      rw [answer]

/-! ## Lines of a text -/

/-- The command line that a line of text carries, if it carries one. The line has its
newline. -/
def commandOfLine? (line : List Char) : Option CommandLine :=
  if CommandLine.isSkippable line then none else CommandLine.split? (String.ofList line)

/-- A line is read from its bytes as it is read from its text. -/
theorem ofRaw_encodeChars {line : List Char} (nonempty : line ≠ []) :
    LineRead.ofRaw (.bytes (Text.encodeChars line)) = .line (String.ofList line) := by
  have decoded : Text.decode? (Text.encodeChars line) = some (String.ofList line) := by
    have back := Text.decode?_encode (String.ofList line)
    rw [Text.encode_eq, String.toList_ofList] at back
    exact back
  have written : Text.encodeChars line ≠ [] := by
    obtain ⟨first, rest, rfl⟩ := List.exists_cons_of_ne_nil nonempty
    rw [Text.encodeChars, List.flatMap_cons]
    exact List.append_ne_nil_of_left_ne_nil String.utf8EncodeChar_ne_nil _
  obtain ⟨first, rest, bytes⟩ := List.exists_cons_of_ne_nil written
  rw [bytes] at decoded ⊢
  simp only [LineRead.ofRaw, decoded]

theorem commandOfBytes?_encodeChars {line : List Char} (nonempty : line ≠ []) :
    commandOfBytes? (Text.encodeChars line) = commandOfLine? line := by
  rw [commandOfBytes?, ofRaw_encodeChars nonempty, Attempt.ofLineRead, String.toList_ofList,
    commandOfLine?]
  split
  · rfl
  · cases CommandLine.split? (String.ofList line) <;> rfl

/-- **A line source over the UTF-8 form of a text hands out the command lines of the lines
of the text**, however the bytes are cut into chunks. -/
theorem handed_of_encode {source : LineSource} {text : String}
    (quiet : Undisturbed source.chunks)
    (whole : delivered source.chunks = Text.encode text) :
    handed source = (pieces (· == '\n') text.toList).filterMap commandOfLine? := by
  rw [handed_lineSource quiet, whole, Text.encode_eq, rawLines]
  show (pieces (· == 10) (Text.encodeChars text.toList)).filterMap commandOfBytes? = _
  rw [Text.pieces_encodeChars, List.filterMap_map]
  refine List.filterMap_congr fun line member => ?_
  exact commandOfBytes?_encodeChars (Text.shape_of_mem_pieces member).1

end LineSource

end TiltMenu.Input
