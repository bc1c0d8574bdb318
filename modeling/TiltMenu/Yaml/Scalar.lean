import TiltMenu.Text.Hex
import TiltMenu.Yaml.Cell

/-!
# YAML scalars

Scalars are written plain, quoted or as blocks. In plain and quoted scalars the
gap between two words is folded: a gap on one line stays as it is, a single line
break becomes a space, and of several breaks the first is dropped. Block scalars
keep their lines, or fold those that are not indented further.
-/

set_option autoImplicit false

namespace TiltMenu.Yaml

/-- How a scalar is written. -/
inductive ScalarStyle where
  | plain
  | quoted
  /-- A block that keeps its line breaks. -/
  | literal
  /-- A block whose lines are folded. -/
  | folded
  deriving DecidableEq, Repr

/-- A part of a scalar and the text behind it. -/
abbrev Scanned := Except Fault (List Char × List Cell)

/-- The scanned part with characters in front. -/
def Scanned.prepend (characters : List Char) (scanned : Scanned) : Scanned :=
  scanned.map fun read => (characters ++ read.1, read.2)

/-! ## Gaps -/

/-- The gap before a word. -/
inductive Gap where
  /-- Blanks on one line. -/
  | blanks (characters : List Char)
  /-- The first line break, if it counts, and the later ones. -/
  | breaks (first : Option Char) (later : List Char)
  deriving DecidableEq, Repr

namespace Gap

/-- No gap. -/
def none : Gap := .blanks []

/-- The gap goes over a line break. -/
def isBroken : Gap → Bool
  | .blanks _ => false
  | .breaks _ _ => true

/-- The gap with one more cell. Blanks around line breaks do not count. -/
def push (gap : Gap) (cell : Cell) : Gap :=
  match gap with
  | .blanks characters =>
    if cell.isBreak then .breaks (some cell.char) [] else .blanks (characters ++ [cell.char])
  | .breaks first later =>
    if cell.isBreak then .breaks first (later ++ [cell.char]) else .breaks first later

/-- The characters that the gap is folded to. -/
def fold : Gap → List Char
  | .blanks characters => characters
  | .breaks .none later => later
  | .breaks (some '\n') [] => [' ']
  | .breaks (some '\n') later => later
  | .breaks (some first) later => first :: later

end Gap

/-! ## Quoted scalars -/

/-- A scalar in single quotes behind its opening quote. -/
def scanSingleQuoted (gap : Gap) : List Cell → Scanned
  | [] => .error .unterminatedScalar
  | cell :: rest =>
    if atDocumentMark (cell :: rest) then .error .unterminatedScalar
    else if cell.isGap then scanSingleQuoted (gap.push cell) rest
    else if cell.char = '\'' then
      match rest with
      | next :: after =>
        if next.char = '\'' then
          Scanned.prepend (gap.fold ++ ['\'']) (scanSingleQuoted Gap.none after)
        else .ok (gap.fold, rest)
      | [] => .ok (gap.fold, rest)
    else Scanned.prepend (gap.fold ++ [cell.char]) (scanSingleQuoted Gap.none rest)

/-- The character that an escape of one letter stands for. -/
def escaped? : Char → Option Char
  | '0' => some '\x00'
  | 'a' => some '\x07'
  | 'b' => some '\x08'
  | 't' | '\t' => some '\t'
  | 'n' => some '\n'
  | 'v' => some '\x0b'
  | 'f' => some '\x0c'
  | 'r' => some '\r'
  | 'e' => some '\x1b'
  | ' ' => some ' '
  | '"' => some '"'
  | '/' => some '/'
  | '\\' => some '\\'
  | 'N' => some '\u0085'
  | '_' => some '\u00a0'
  | 'L' => some '\u2028'
  | 'P' => some '\u2029'
  | _ => none

/-- The number of hexadecimal digits behind the letter of an escape. -/
def escapeLength? : Char → Option Nat
  | 'x' => some 2
  | 'u' => some 4
  | 'U' => some 8
  | _ => none

/-- The character of some hexadecimal digits. -/
def escapedPoint? (digits : List Char) : Option Char :=
  (Text.readBase? 16 0 digits).bind fun point =>
    if point.isValidChar then some (Char.ofNat point) else none

/-- A scalar in double quotes behind its opening quote. -/
def scanDoubleQuoted (gap : Gap) (text : List Cell) : Scanned :=
  match text with
  | [] => .error .unterminatedScalar
  | cell :: rest =>
    if atDocumentMark (cell :: rest) then .error .unterminatedScalar
    else if cell.isGap then scanDoubleQuoted (gap.push cell) rest
    else if cell.char = '"' then .ok (gap.fold, rest)
    else if cell.char = '\\' then
      match rest with
      | [] => .error .malformedEscape
      | letter :: after =>
        if letter.isBreak then
          Scanned.prepend gap.fold (scanDoubleQuoted (.breaks none []) after)
        else
          match escaped? letter.char, escapeLength? letter.char with
          | some character, _ =>
            Scanned.prepend (gap.fold ++ [character]) (scanDoubleQuoted Gap.none after)
          | none, some length =>
            match escapedPoint? ((after.take length).map Cell.char) with
            | some character =>
              if (after.take length).length = length then
                Scanned.prepend (gap.fold ++ [character])
                  (scanDoubleQuoted Gap.none (after.drop length))
              else .error .malformedEscape
            | none => .error .malformedEscape
          | none, none => .error .malformedEscape
    else Scanned.prepend (gap.fold ++ [cell.char]) (scanDoubleQuoted Gap.none rest)
termination_by text.length

/-! ## Plain scalars -/

/-- The characters that structure a flow collection. -/
def isFlowIndicator (character : Char) : Bool :=
  character == ',' || character == '[' || character == ']' || character == '{'
    || character == '}'

/-- The place and the form in which a plain scalar stands. -/
structure PlainContext where
  inFlow : Bool
  /-- The least column of its later lines in a block. -/
  indent : Int

/-- A plain scalar: its text, whether a line break follows it before the text goes on,
and the text behind it. -/
structure PlainScalar where
  text : List Char
  brokenBehind : Bool
  rest : List Cell

/-- The scalar with characters in front. -/
def PlainScalar.prepend (characters : List Char) (scalar : PlainScalar) : PlainScalar :=
  { scalar with text := characters ++ scalar.text }

/-- The text goes on with a colon that ends a plain scalar. -/
def endsPlain (context : PlainContext) (cell : Cell) (rest : List Cell) : Bool :=
  (cell.char == ':' && gapFollows rest) || (context.inFlow && isFlowIndicator cell.char)

/-- A colon in a flow collection right before an indicator is no part of a scalar. -/
def isStrayColon (context : PlainContext) (cell : Cell) (rest : List Cell) : Bool :=
  context.inFlow && cell.char == ':'
    && rest.head?.any fun next => isFlowIndicator next.char || next.char == '?'

/-- The gap before the cell ends a plain scalar. -/
def endsAfterGap (context : PlainContext) (cell : Cell) (rest : List Cell) : Bool :=
  (!context.inFlow && (cell.column : Int) < context.indent) || cell.char == '#'
    || atDocumentMark (cell :: rest)

/-- A plain scalar from some gap on. -/
def scanPlain (context : PlainContext) (gap : Gap) : List Cell → Except Fault PlainScalar
  | [] => .ok ⟨[], gap.isBroken, []⟩
  | cell :: rest =>
    if cell.isGap then
      if gap.isBroken && cell.char == '\t' && (cell.column : Int) < context.indent then
        .error .misplacedTab
      else scanPlain context (gap.push cell) rest
    else if gap != Gap.none && endsAfterGap context cell rest then
      .ok ⟨[], gap.isBroken, cell :: rest⟩
    else if isStrayColon context cell rest then .error .unexpectedCharacter
    else if endsPlain context cell rest then .ok ⟨[], gap.isBroken, cell :: rest⟩
    else
      (scanPlain context Gap.none rest).map
        (PlainScalar.prepend (gap.fold ++ [cell.char]))

/-! ## Block scalars -/

/-- What becomes of the line breaks at the end of a block scalar. -/
inductive Chomping where
  | strip
  | clip
  | keep
  deriving DecidableEq, Repr

/-- The header of a block scalar. -/
structure BlockHeader where
  chomping : Chomping := .clip
  /-- The indentation relative to the surrounding block, if it is given. -/
  increment : Option Nat := none

/-- The chomping that a character asks for. -/
def chompingOf? : Char → Option Chomping
  | '+' => some .keep
  | '-' => some .strip
  | _ => none

/-- The header and the text behind it. Chomping and indentation come in any order. -/
def scanHeader (text : List Cell) : Except Fault (BlockHeader × List Cell) :=
  match text with
  | [] => .ok ({}, [])
  | first :: rest =>
    match chompingOf? first.char with
    | some chomping =>
      match rest with
      | second :: after =>
        if second.char = '0' then .error .malformedBlockHeader
        else if second.char.isDigit then
          .ok (⟨chomping, some (second.char.toNat - 48)⟩, after)
        else .ok (⟨chomping, none⟩, rest)
      | [] => .ok (⟨chomping, none⟩, rest)
    | none =>
      if first.char = '0' then .error .malformedBlockHeader
      else if first.char.isDigit then
        match rest with
        | second :: after =>
          match chompingOf? second.char with
          | some chomping => .ok (⟨chomping, some (first.char.toNat - 48)⟩, after)
          | none => .ok (⟨.clip, some (first.char.toNat - 48)⟩, rest)
        | [] => .ok (⟨.clip, some (first.char.toNat - 48)⟩, rest)
      else .ok ({}, text)

/-- The text behind the rest of a line, which may hold blanks and a comment only. -/
def endLine (text : List Cell) : Option (List Cell) :=
  let afterBlanks := skipBlanks text
  let afterComment :=
    match afterBlanks with
    | cell :: _ =>
      if cell.char = '#' then afterBlanks.dropWhile Cell.isInLine else afterBlanks
    | [] => []
  match afterComment with
  | [] => some []
  | cell :: rest => if cell.isBreak then some rest else none

/-- The line breaks before the next line of a block scalar. -/
structure BlockBreaks where
  indent : Nat
  breaks : List Char
  rest : List Cell

/-- The line breaks and the indentation before the next line. An indentation of zero is
not known yet: then the deepest of the lines before the first that has text counts, but
at least one more than the surrounding block. -/
def scanBreaks (least indent deepest : Nat) (breaks : List Char) :
    List Cell → Except Fault BlockBreaks
  | [] => .ok ⟨if indent = 0 then max deepest least else indent, breaks, []⟩
  | cell :: rest =>
    let indenting := indent == 0 || cell.column < indent
    if indenting && cell.char == ' ' then scanBreaks least indent deepest breaks rest
    else if indenting && cell.char == '\t' then .error .misplacedTab
    else
      let deepest := max deepest cell.column
      if cell.isBreak then scanBreaks least indent deepest (breaks ++ [cell.char]) rest
      else .ok ⟨if indent = 0 then max deepest least else indent, breaks, cell :: rest⟩

/-- What stands between the lines of a block scalar read so far and the next. -/
structure BlockSeam where
  /-- The break of the last line, nothing before the first line. -/
  lineBreak : List Char
  /-- The breaks of the empty lines behind it. -/
  trailing : List Char
  /-- The last line starts with a blank. -/
  indented : Bool

namespace BlockSeam

/-- The characters between two lines. A folded scalar joins two lines that are not
indented further by a space, unless there are empty lines in between. -/
def join (literal : Bool) (seam : BlockSeam) (nextIndented : Bool) : List Char :=
  if !literal && seam.lineBreak == ['\n'] && !seam.indented && !nextIndented then
    if seam.trailing.isEmpty then [' '] else seam.trailing
  else seam.lineBreak ++ seam.trailing

/-- The characters behind the last line. -/
def chomp (seam : BlockSeam) : Chomping → List Char
  | .strip => []
  | .clip => seam.lineBreak
  | .keep => seam.lineBreak ++ seam.trailing

end BlockSeam

theorem length_scanBreaks {least indent deepest : Nat} {breaks : List Char} {text : List Cell}
    {read : BlockBreaks} (scanned : scanBreaks least indent deepest breaks text = .ok read) :
    read.rest.length ≤ text.length := by
  induction text generalizing deepest breaks with
  | nil =>
    simp only [scanBreaks, Except.ok.injEq] at scanned
    simp [← scanned]
  | cons cell rest ih =>
    simp only [scanBreaks] at scanned
    split at scanned
    · exact Nat.le_succ_of_le (ih scanned)
    · split at scanned
      · simp at scanned
      · split at scanned
        · exact Nat.le_succ_of_le (ih scanned)
        · simp only [Except.ok.injEq] at scanned
          simp [← scanned]

/-- The lines of a block scalar from some seam on. -/
def scanLines (literal : Bool) (chomping : Chomping) (indent : Nat) (seam : BlockSeam)
    (text : List Cell) : Scanned :=
  match text with
  | [] => .ok (seam.chomp chomping, [])
  | first :: others =>
    if first.column ≠ indent then .ok (seam.chomp chomping, text)
    else
      let line := first :: others.takeWhile Cell.isInLine
      let behind := others.dropWhile Cell.isInLine
      let lineBreak := (behind.take 1).map Cell.char
      match _scanned : scanBreaks 0 indent 0 [] (behind.drop 1) with
      | .error fault => .error fault
      | .ok next =>
        let seamBehind := ⟨lineBreak, next.breaks, first.isBlank⟩
        Scanned.prepend (seam.join literal first.isBlank ++ line.map Cell.char)
          (scanLines literal chomping indent seamBehind next.rest)
termination_by text.length
decreasing_by
  have shrinking := length_scanBreaks _scanned
  have shorter : behind.length ≤ others.length := (List.dropWhile_sublist _).length_le
  simp only [List.length_drop] at shrinking
  simp only [List.length_cons]
  omega

/-- A block scalar behind its indicator, in a block with some indentation. -/
def scanBlock (literal : Bool) (surrounding : Int) (text : List Cell) : Scanned := do
  let (header, afterHeader) ← scanHeader text
  match endLine afterHeader with
  | none => .error .malformedBlockHeader
  | some body =>
    let indent := (header.increment.map fun increment => surrounding.toNat + increment).getD 0
    let least := (max (surrounding + 1) 1).toNat
    let start ← scanBreaks least indent 0 [] body
    scanLines literal header.chomping start.indent ⟨[], start.breaks, false⟩ start.rest

end TiltMenu.Yaml
