/-!
# YAML text by position

The layout of a YAML document carries meaning, so its text is read as a list of
cells: characters with the place where they stand. All line breaks but the line
and paragraph separators read as newlines, and a carriage return together with a
newline is one break. A text with control characters is refused.
-/

set_option autoImplicit false

namespace TiltMenu.Yaml

/-- Why a text is no YAML document. -/
inductive Fault where
  | controlCharacter
  | unexpectedCharacter
  | unexpectedToken
  | missingColon
  | misplacedIndicator
  | malformedDirective
  | malformedProperty
  | undefinedTag
  | undefinedAlias
  | malformedEscape
  | unterminatedScalar
  | misplacedTab
  | malformedBlockHeader
  | severalDocuments
  deriving DecidableEq, Repr

/-- A character and its place, counted from zero. -/
structure Cell where
  char : Char
  /-- The number of bytes before it in the UTF-8 form of the text. -/
  index : Nat
  line : Nat
  /-- The number of characters before it in its line. -/
  column : Nat
  deriving DecidableEq, Repr

/-- The characters that may occur in a document. -/
def isPrintable (character : Char) : Bool :=
  let point := character.toNat
  point == 0x09 || point == 0x0A || point == 0x0D || (0x20 ≤ point && point ≤ 0x7E)
    || point == 0x85 || (0xA0 ≤ point && point ≤ 0xFFFD) || 0x10000 ≤ point

/-- The line break that a character is read as, if it is one. -/
def lineBreakOf? (character : Char) : Option Char :=
  if character = '\n' ∨ character = '\r' ∨ character = '\u0085' then some '\n'
  else if character = '\u2028' ∨ character = '\u2029' then some character
  else none

/-- The cells of a text that starts at some place. -/
def cellsFrom (index line column : Nat) : List Char → List Cell
  | [] => []
  | '\r' :: '\n' :: rest => ⟨'\n', index, line, column⟩ :: cellsFrom (index + 2) (line + 1) 0 rest
  | first :: rest =>
    let next := index + first.utf8Size
    match lineBreakOf? first with
    | some lineBreak => ⟨lineBreak, index, line, column⟩ :: cellsFrom next (line + 1) 0 rest
    | none => ⟨first, index, line, column⟩ :: cellsFrom next line (column + 1) rest

/-- The cells of a text. -/
def cells (text : List Char) : Except Fault (List Cell) :=
  if text.all isPrintable then .ok (cellsFrom 0 0 0 text) else .error .controlCharacter

namespace Cell

/-- The cell ends a line. -/
def isBreak (cell : Cell) : Bool := (lineBreakOf? cell.char).isSome

/-- The cell is part of a line. -/
def isInLine (cell : Cell) : Bool := !cell.isBreak

/-- The cell is a space or a tab. -/
def isBlank (cell : Cell) : Bool := cell.char == ' ' || cell.char == '\t'

/-- The cell separates words. -/
def isGap (cell : Cell) : Bool := cell.isBlank || cell.isBreak

end Cell

/-- The text goes on with a gap or ends. -/
def gapFollows : List Cell → Bool
  | [] => true
  | cell :: _ => cell.isGap

/-- The text goes on with some characters. -/
def startsWith (characters : List Char) (text : List Cell) : Bool :=
  (text.take characters.length).map Cell.char == characters

/-- Three of a character and a gap at the start of a line. -/
def isDocumentMark (character : Char) (text : List Cell) : Bool :=
  match text with
  | first :: second :: third :: rest =>
    first.column == 0 && first.char == character && second.char == character
      && third.char == character && gapFollows rest
  | _ => false

/-- A mark that starts or ends a document. -/
def atDocumentMark (text : List Cell) : Bool := isDocumentMark '-' text || isDocumentMark '.' text

/-- The text from its first cell that is not blank. -/
def skipBlanks (text : List Cell) : List Cell := text.dropWhile Cell.isBlank

end TiltMenu.Yaml
