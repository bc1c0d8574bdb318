import TiltMenu.Yaml.Scalar

/-!
# YAML tokens

A document is read as a list of tokens. In block style the indentation stands for
brackets: a block opens where the text is indented further than before and closes
where it is indented less. Some tokens become known only later: whether a scalar or a
flow collection is the key of a mapping shows at the colon behind it, so every
possible key is remembered until the line ends or 1024 bytes have passed.

A tag is a sequence of bytes: percent escapes may spell any that have the shape of UTF-8
characters, also if no character is written like that. It ends at its first zero byte.
-/

set_option autoImplicit false

namespace TiltMenu.Yaml

/-- The parts of a document. -/
inductive Token where
  | version (major minor : Nat)
  /-- A handle of tags and the bytes that it stands for. -/
  | tagHandle (handle : String) (meaning : List UInt8)
  | documentStart
  | documentEnd
  | blockSequenceStart
  | blockMappingStart
  | blockEnd
  | flowSequenceStart
  | flowSequenceEnd
  | flowMappingStart
  | flowMappingEnd
  | blockEntry
  | flowEntry
  | key
  | value
  | alias (name : String)
  | anchor (name : String)
  /-- A tag: its handle, which is empty for a tag that needs none, and what follows it. -/
  | tag (handle : String) (name : List UInt8)
  | scalar (text : String) (style : ScalarStyle)
  | streamEnd
  deriving DecidableEq, Repr

/-! ## Properties and directives -/

/-- The characters of names. -/
def isNameChar (character : Char) : Bool :=
  character.isAlphanum || character == '_' || character == '-'

/-- The name at the start of a text, and the text behind it. -/
def scanName (text : List Cell) : List Char × List Cell :=
  ((text.takeWhile fun cell => isNameChar cell.char).map Cell.char,
    text.dropWhile fun cell => isNameChar cell.char)

/-- The characters that may stand right behind a name. -/
def mayFollowName (text : List Cell) : Bool :=
  gapFollows text || text.head?.any fun cell => "?:,]\x7d%@\x60".toList.contains cell.char

/-- The name of an anchor or an alias behind its indicator. -/
def scanAnchorName (text : List Cell) : Except Fault (String × List Cell) :=
  let (name, rest) := scanName text
  if name.isEmpty || !mayFollowName rest then .error .malformedProperty
  else .ok (String.ofList name, rest)

/-- The characters of a tag. Inside angle brackets some more are allowed. -/
def isTagChar (verbatim : Bool) (character : Char) : Bool :=
  isNameChar character || ";/?:@&=+$.!~*'()%".toList.contains character
    || (verbatim && ",[]".toList.contains character)

/-- The byte that a percent escape at the start of a text spells. -/
def percentByte? : List Cell → Option UInt8
  | percent :: high :: low :: _ =>
    if percent.char = '%' then (Text.readBase? 16 0 [high.char, low.char]).map UInt8.ofNat
    else none
  | _ => none

/-- The number of bytes that follow the first byte of a character. -/
def followingBytes? (first : UInt8) : Option Nat :=
  if first < 0x80 then some 0
  else if 0xC0 ≤ first ∧ first < 0xE0 then some 1
  else if 0xE0 ≤ first ∧ first < 0xF0 then some 2
  else if 0xF0 ≤ first ∧ first < 0xF8 then some 3
  else none

/-- Some more bytes of a character in percent escapes, and the text behind them. -/
def scanFollowingBytes : Nat → List Cell → Except Fault (List UInt8 × List Cell)
  | 0, text => .ok ([], text)
  | count + 1, text =>
    match percentByte? text with
    | some byte =>
      if 0x80 ≤ byte ∧ byte < 0xC0 then do
        let (later, rest) ← scanFollowingBytes count (text.drop 3)
        return (byte :: later, rest)
      else .error .malformedProperty
    | none => .error .malformedProperty

/-- The bytes of a character of a tag that is written in percent escapes, and the text
behind it. -/
def scanEscapedChar (text : List Cell) : Except Fault (List UInt8 × List Cell) := do
  match percentByte? text with
  | some first =>
    match followingBytes? first with
    | some count =>
      let (later, rest) ← scanFollowingBytes count (text.drop 3)
      return (first :: later, rest)
    | none => .error .malformedProperty
  | none => .error .malformedProperty

/-- The bytes of a tag and the text behind it, in at most some number of steps. -/
def scanTagBytes (verbatim : Bool) : Nat → List Cell → Except Fault (List UInt8 × List Cell)
  | 0, text => .ok ([], text)
  | _ + 1, [] => .ok ([], [])
  | steps + 1, cell :: rest =>
    if cell.char = '%' then do
      let (bytes, after) ← scanEscapedChar (cell :: rest)
      let (later, behind) ← scanTagBytes verbatim steps after
      return (bytes ++ later, behind)
    else if isTagChar verbatim cell.char then do
      let (later, behind) ← scanTagBytes verbatim steps rest
      return (cell.char.toUInt8 :: later, behind)
    else .ok ([], cell :: rest)

/-- The bytes that count of those of a tag. -/
def upToZero (bytes : List UInt8) : List UInt8 := bytes.takeWhile (· != 0)

/-- A tag, or the meaning of a handle, and the text behind it. At least one byte must be
written, even if none counts. -/
def scanTagName (verbatim : Bool) (text : List Cell) : Except Fault (List UInt8 × List Cell) := do
  let (bytes, rest) ← scanTagBytes verbatim text.length text
  if bytes.isEmpty then .error .malformedProperty else return (upToZero bytes, rest)

/-- An exclamation mark, a name and perhaps another mark. -/
def scanHandle (text : List Cell) : Except Fault (List Char × List Cell) :=
  match text with
  | first :: rest =>
    if first.char = '!' then
      let (name, behind) := scanName rest
      match behind with
      | next :: after =>
        if next.char = '!' then .ok ('!' :: name ++ ['!'], after) else .ok ('!' :: name, behind)
      | [] => .ok ('!' :: name, behind)
    else .error .malformedProperty
  | [] => .error .malformedProperty

/-- A tag behind its opening angle bracket. It has no handle. -/
def scanVerbatimTag (text : List Cell) : Except Fault (Token × List Cell) := do
  match ← scanTagName true text with
  | (name, closing :: rest) =>
    if closing.char = '>' then return (.tag "" name, rest) else .error .malformedProperty
  | (_, []) => .error .malformedProperty

/-- A tag with a handle. A tag that starts with a single mark has this for its handle; if
nothing that counts follows, the mark alone is a tag that needs no handle. -/
def scanShorthandTag (text : List Cell) : Except Fault (Token × List Cell) := do
  let (handle, behind) ← scanHandle text
  if 1 < handle.length ∧ handle.getLast? = some '!' then
    let (name, rest) ← scanTagName false behind
    return (.tag (String.ofList handle) name, rest)
  else
    let (later, rest) ← scanTagBytes false behind.length behind
    let name := upToZero (handle.tail.map Char.toUInt8 ++ later)
    return (if name.isEmpty then .tag "" ['!'.toUInt8] else .tag "!" name, rest)

/-- A tag at its exclamation mark. -/
def scanTag (inFlow : Bool) (text : List Cell) : Except Fault (Token × List Cell) := do
  let (tag, rest) ←
    if startsWith ['!', '<'] text then scanVerbatimTag (text.drop 2) else scanShorthandTag text
  if gapFollows rest || (inFlow && startsWith [','] rest) then return (tag, rest)
  else .error .malformedProperty

/-- A number of at most nine digits. -/
def scanVersionNumber (text : List Cell) : Except Fault (Nat × List Cell) :=
  let digits := (text.takeWhile fun cell => cell.char.isDigit).map Cell.char
  if digits.isEmpty || 9 < digits.length then .error .malformedDirective
  else .ok (Nat.ofDigitChars 10 digits 0, text.drop digits.length)

/-- The directive of the version behind its name. -/
def scanVersion (text : List Cell) : Except Fault (Token × List Cell) := do
  let (major, behind) ← scanVersionNumber (skipBlanks text)
  if startsWith ['.'] behind then
    let (minor, rest) ← scanVersionNumber (behind.drop 1)
    return (.version major minor, rest)
  else .error .malformedDirective

/-- The directive of a tag handle behind its name. -/
def scanTagDirective (text : List Cell) : Except Fault (Token × List Cell) := do
  let (handle, behind) ← scanHandle (skipBlanks text)
  let complete := handle = ['!'] ∨ (1 < handle.length ∧ handle.getLast? = some '!')
  if complete ∧ behind.head?.any Cell.isBlank then
    let (meaning, rest) ← scanTagName true (skipBlanks behind)
    if gapFollows rest then return (.tagHandle (String.ofList handle) meaning, rest)
    else .error .malformedDirective
  else .error .malformedDirective

/-- A directive behind its indicator, with the rest of its line. -/
def scanDirective (text : List Cell) : Except Fault (Token × List Cell) := do
  let (name, behind) := scanName text
  let (token, rest) ←
    if name.isEmpty || !gapFollows behind then .error .malformedDirective
    else if name = "YAML".toList then scanVersion behind
    else if name = "TAG".toList then scanTagDirective behind
    else .error .malformedDirective
  match endLine rest with
  | some next => return (token, next)
  | none => .error .malformedDirective

/-! ## Layout -/

/-- A token that may turn out to be the key of a mapping. -/
structure PossibleKey where
  /-- The number of tokens before it. -/
  position : Nat
  /-- The key is the only thing that can stand at its place. -/
  required : Bool
  cell : Cell

/-- The state of reading tokens. -/
structure Layout where
  rest : List Cell
  tokens : Array Token := #[]
  /-- The column of the innermost block, below zero outside of all blocks. -/
  indent : Int := -1
  /-- The columns of the blocks around it. -/
  outerIndents : List Int := []
  /-- A key may start here. -/
  keyAllowed : Bool := true
  /-- The possible key of the innermost collection. -/
  possibleKey : Option PossibleKey := none
  /-- The possible keys of the collections around it, one for each open flow
  collection. -/
  outerKeys : List (Option PossibleKey) := []

namespace Layout

/-- The text is inside a flow collection. -/
def inFlow (layout : Layout) : Bool := !layout.outerKeys.isEmpty

/-- Adds a token at the end. -/
def emit (layout : Layout) (token : Token) : Layout :=
  { layout with tokens := layout.tokens.push token }

/-- Goes on with another text. -/
def goTo (layout : Layout) (rest : List Cell) : Layout := { layout with rest := rest }

/-- States whether a key may start behind what was read. -/
def allowKey (layout : Layout) (allowed : Bool) : Layout := { layout with keyAllowed := allowed }

/-- The key is too far back to be one: on an earlier line or more than 1024 bytes away. -/
def isStale (key : PossibleKey) (cell : Cell) : Bool :=
  key.cell.line < cell.line || key.cell.index + 1024 < cell.index

/-- Forgets a key that is too far back. One that is required is missing its colon. -/
def dropStale (cell : Cell) (key : Option PossibleKey) :
    Except Fault (Option PossibleKey) :=
  match key with
  | some possible =>
    if isStale possible cell then
      if possible.required then .error .missingColon else .ok none
    else .ok key
  | none => .ok none

/-- Forgets all keys that are too far back. -/
def dropStaleKeys (layout : Layout) (cell : Cell) : Except Fault Layout := do
  let possibleKey ← dropStale cell layout.possibleKey
  let outerKeys ← layout.outerKeys.mapM (dropStale cell)
  return { layout with possibleKey := possibleKey, outerKeys := outerKeys }

/-- Forgets the key of the innermost collection. -/
def forgetKey (layout : Layout) : Except Fault Layout :=
  match layout.possibleKey with
  | some possible =>
    if possible.required then .error .missingColon
    else .ok { layout with possibleKey := none }
  | none => .ok layout

/-- Remembers that the next token may be a key, if one may start here. -/
def rememberKey (layout : Layout) (cell : Cell) : Except Fault Layout :=
  if layout.keyAllowed then do
    let forgotten ← layout.forgetKey
    let required := !layout.inFlow && layout.indent == cell.column
    return { forgotten with possibleKey := some ⟨layout.tokens.size, required, cell⟩ }
  else .ok layout

/-- Opens a block at a column if the text is indented further than the innermost block.
The token that opens it goes before those from some position on. -/
def openBlock (layout : Layout) (column : Nat) (token : Token) (position : Nat) : Layout :=
  if !layout.inFlow && layout.indent < column then
    { layout with
      indent := column
      outerIndents := layout.indent :: layout.outerIndents
      tokens := layout.tokens.insertIdxIfInBounds position token }
  else layout

/-- Closes blocks, the innermost first, down to one that does not stand beyond a
column. -/
def closeFrom (column indent : Int) (tokens : Array Token) :
    List Int → Int × List Int × Array Token
  | [] => (indent, [], tokens)
  | outer :: rest =>
    if column < indent then closeFrom column outer (tokens.push .blockEnd) rest
    else (indent, outer :: rest, tokens)

/-- Closes the blocks that the text at a column does not belong to. -/
def closeBlocks (layout : Layout) (column : Int) : Layout :=
  if layout.inFlow then layout
  else
    let (indent, outerIndents, tokens) :=
      closeFrom column layout.indent layout.tokens layout.outerIndents
    { layout with indent := indent, outerIndents := outerIndents, tokens := tokens }

/-! ## Reading one token -/

/-- Closes all blocks before a token that stands outside of them. -/
def leaveBlocks (layout : Layout) : Except Fault Layout := do
  return ((← (layout.closeBlocks (-1)).forgetKey).allowKey false)

/-- A directive at its indicator. -/
def readDirective (layout : Layout) (rest : List Cell) : Except Fault Layout := do
  let left ← layout.leaveBlocks
  let (token, behind) ← scanDirective rest
  return (left.emit token).goTo behind

/-- A mark that starts or ends a document. -/
def readDocumentMark (layout : Layout) (token : Token) : Except Fault Layout := do
  return ((← layout.leaveBlocks).emit token).goTo (layout.rest.drop 3)

/-- An opening bracket. -/
def readFlowStart (layout : Layout) (token : Token) (cell : Cell) (rest : List Cell) :
    Except Fault Layout := do
  let remembered ← layout.rememberKey cell
  let nested :=
    { remembered with
      possibleKey := none
      outerKeys := remembered.possibleKey :: remembered.outerKeys }
  return ((nested.allowKey true).emit token).goTo rest

/-- A closing bracket. -/
def readFlowEnd (layout : Layout) (token : Token) (rest : List Cell) :
    Except Fault Layout := do
  let forgotten ← layout.forgetKey
  let outside :=
    match forgotten.outerKeys with
    | [] => forgotten
    | outer :: others => { forgotten with possibleKey := outer, outerKeys := others }
  return ((outside.allowKey false).emit token).goTo rest

/-- A comma in a flow collection. -/
def readFlowEntry (layout : Layout) (rest : List Cell) : Except Fault Layout := do
  return (((← layout.forgetKey).allowKey true).emit .flowEntry).goTo rest

/-- The dash of an item of a block sequence. -/
def readBlockEntry (layout : Layout) (cell : Cell) (rest : List Cell) : Except Fault Layout :=
  if !layout.inFlow && !layout.keyAllowed then .error .misplacedIndicator
  else do
    let opened := layout.openBlock cell.column .blockSequenceStart layout.tokens.size
    return (((← opened.forgetKey).allowKey true).emit .blockEntry).goTo rest

/-- The question mark of a key. -/
def readKey (layout : Layout) (cell : Cell) (rest : List Cell) : Except Fault Layout :=
  if !layout.inFlow && !layout.keyAllowed then .error .misplacedIndicator
  else do
    let opened := layout.openBlock cell.column .blockMappingStart layout.tokens.size
    return (((← opened.forgetKey).allowKey (!layout.inFlow)).emit .key).goTo rest

/-- The colon of a value. If a possible key stands before it, that is its key. -/
def readValue (layout : Layout) (cell : Cell) (rest : List Cell) : Except Fault Layout :=
  match layout.possibleKey with
  | some possible =>
    let keyed :=
      { layout with
        possibleKey := none
        tokens := layout.tokens.insertIdxIfInBounds possible.position .key }
    let opened := keyed.openBlock possible.cell.column .blockMappingStart possible.position
    .ok (((opened.allowKey false).emit .value).goTo rest)
  | none =>
    if !layout.inFlow && !layout.keyAllowed then .error .misplacedIndicator
    else
      let opened := layout.openBlock cell.column .blockMappingStart layout.tokens.size
      .ok (((opened.allowKey (!layout.inFlow)).emit .value).goTo rest)

/-- A token that may be a key or belong to one, and the text behind it. -/
def readKeyPart (layout : Layout) (cell : Cell) (scanned : Except Fault (Token × List Cell)) :
    Except Fault Layout := do
  let remembered ← layout.rememberKey cell
  let (token, behind) ← scanned
  return ((remembered.allowKey false).emit token).goTo behind

/-- A block scalar behind its indicator. -/
def readBlockScalar (layout : Layout) (literal : Bool) (rest : List Cell) :
    Except Fault Layout := do
  let forgotten ← layout.forgetKey
  let (text, behind) ← scanBlock literal layout.indent rest
  let style := if literal then .literal else .folded
  return ((forgotten.allowKey true).emit (.scalar (String.ofList text) style)).goTo behind

/-- A plain scalar. A key may start behind it if it is on another line. -/
def readPlain (layout : Layout) (cell : Cell) : Except Fault Layout := do
  let remembered ← layout.rememberKey cell
  let scalar ← scanPlain ⟨layout.inFlow, layout.indent + 1⟩ Gap.none layout.rest
  return ((remembered.allowKey scalar.brokenBehind).emit
    (.scalar (String.ofList scalar.text) .plain)).goTo scalar.rest

/-- The characters with which no plain scalar starts. -/
def isIndicator (character : Char) : Bool :=
  "-?:,[]\x7b\x7d#&*!|>'\"%@\x60".toList.contains character

/-- A plain scalar starts here. Three indicators may start one if something follows them
at once. -/
def startsPlain (layout : Layout) (cell : Cell) (rest : List Cell) : Bool :=
  (!cell.isGap && !isIndicator cell.char)
    || (cell.char == '-' && !rest.head?.any Cell.isBlank)
    || (!layout.inFlow && (cell.char == '?' || cell.char == ':') && !gapFollows rest)

/-- A quoted scalar as a token. -/
def quoted (scanned : Scanned) : Except Fault (Token × List Cell) :=
  scanned.map fun read => (.scalar (String.ofList read.1) .quoted, read.2)

/-- Reads the token that starts with a cell. -/
def readToken (layout : Layout) (cell : Cell) (rest : List Cell) : Except Fault Layout :=
  let indicates := layout.inFlow || gapFollows rest
  if cell.column == 0 && cell.char == '%' then layout.readDirective rest
  else if isDocumentMark '-' layout.rest then layout.readDocumentMark .documentStart
  else if isDocumentMark '.' layout.rest then layout.readDocumentMark .documentEnd
  else if cell.char == '[' then layout.readFlowStart .flowSequenceStart cell rest
  else if cell.char == '\x7b' then layout.readFlowStart .flowMappingStart cell rest
  else if cell.char == ']' then layout.readFlowEnd .flowSequenceEnd rest
  else if cell.char == '\x7d' then layout.readFlowEnd .flowMappingEnd rest
  else if cell.char == ',' then layout.readFlowEntry rest
  else if cell.char == '-' && gapFollows rest then layout.readBlockEntry cell rest
  else if cell.char == '?' && indicates then layout.readKey cell rest
  else if cell.char == ':' && indicates then layout.readValue cell rest
  else if cell.char == '*' then
    layout.readKeyPart cell ((scanAnchorName rest).map fun read => (.alias read.1, read.2))
  else if cell.char == '&' then
    layout.readKeyPart cell ((scanAnchorName rest).map fun read => (.anchor read.1, read.2))
  else if cell.char == '!' then
    layout.readKeyPart cell (scanTag layout.inFlow layout.rest)
  else if cell.char == '|' && !layout.inFlow then layout.readBlockScalar true rest
  else if cell.char == '>' && !layout.inFlow then layout.readBlockScalar false rest
  else if cell.char == '\'' then layout.readKeyPart cell (quoted (scanSingleQuoted Gap.none rest))
  else if cell.char == '"' then layout.readKeyPart cell (quoted (scanDoubleQuoted Gap.none rest))
  else if layout.startsPlain cell rest then layout.readPlain cell
  else .error .unexpectedCharacter

/-! ## Reading all tokens -/

/-- Whether a key may start at the next token, and the text from that token on. Between
tokens stand blanks, comments and line breaks; a tab is a blank only where no key may
start, and a line break outside of flow collections lets a key start. -/
def skipGap (inFlow keyAllowed inComment : Bool) : List Cell → Bool × List Cell
  | [] => (keyAllowed, [])
  | cell :: rest =>
    if cell.isBreak then skipGap inFlow (keyAllowed || !inFlow) false rest
    else if inComment then skipGap inFlow keyAllowed true rest
    else if cell.char = ' ' then skipGap inFlow keyAllowed false rest
    else if cell.char = '\t' ∧ (inFlow ∨ !keyAllowed) then skipGap inFlow keyAllowed false rest
    else if cell.char = '#' then skipGap inFlow keyAllowed true rest
    else if cell.char = '\ufeff' ∧ cell.column = 0 then skipGap inFlow keyAllowed false rest
    else (keyAllowed, cell :: rest)

/-- The layout at its next token. -/
def atNextToken (layout : Layout) : Layout :=
  let (keyAllowed, rest) := skipGap layout.inFlow layout.keyAllowed false layout.rest
  (layout.allowKey keyAllowed).goTo rest

/-- Reads the next token and what stands before it. -/
def advance (layout : Layout) (cell : Cell) (rest : List Cell) : Except Fault Layout := do
  let fresh ← layout.dropStaleKeys cell
  (fresh.closeBlocks cell.column).readToken cell rest

/-- Reads the tokens up to the end of the text in at most some number of steps. Each step
takes at least one character, so one more than the length of the text is enough. -/
def readAll : Nat → Layout → Except Fault (Array Token)
  | 0, _ => .error .unexpectedCharacter
  | steps + 1, layout =>
    let next := layout.atNextToken
    match next.rest with
    | [] => do
      let left ← next.leaveBlocks
      return (left.emit .streamEnd).tokens
    | cell :: rest => do readAll steps (← next.advance cell rest)

end Layout

/-- The tokens of a text. -/
def tokens (text : List Char) : Except Fault (List Token) := do
  let cells ← cells text
  let tokens ← Layout.readAll (cells.length + 1) { rest := cells }
  return tokens.toList

end TiltMenu.Yaml
