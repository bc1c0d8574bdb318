import TiltMenu.Text.Utf8
import TiltMenu.Yaml.Token

/-!
# YAML documents

A document is a tree of nodes. A node may have an anchor, and an alias stands for a
node with an anchor by a number: a name gets the number of names that are bound when
it is bound, so a name bound anew is told apart from its earlier node, and if a number
is used twice the node that starts last has it.

A text holds one document or none. Reading takes a bound for its steps: of two steps
at least one takes a token.
-/

set_option autoImplicit false

namespace TiltMenu.Yaml

/-- A node of a document. -/
inductive Node where
  | scalar (text : String) (style : ScalarStyle) (tag : Option (List UInt8))
  | sequence (items : List Node)
  | mapping (pairs : List (Node × Node))
  | alias (anchor : Nat)
  deriving Repr, Inhabited

namespace Node

/-- The node that stands where nothing is written. -/
def nothing : Node := .scalar "" .plain none

mutual

/-- The number of scalars, aliases and ends of collections in a node. -/
def size : Node → Nat
  | .scalar _ _ _ | .alias _ => 1
  | .sequence items => 2 + sizeItems items
  | .mapping pairs => 2 + sizePairs pairs

/-- The size of all nodes of a list. -/
def sizeItems : List Node → Nat
  | [] => 0
  | first :: rest => first.size + sizeItems rest

/-- The size of all nodes of a list of pairs. -/
def sizePairs : List (Node × Node) → Nat
  | [] => 0
  | (key, value) :: rest => key.size + value.size + sizePairs rest

end

end Node

/-- A node with an anchor. -/
structure Anchored where
  /-- The number by which aliases refer to the node. -/
  anchor : Nat
  /-- The number of anchors that start before it. -/
  start : Nat
  node : Node
  deriving Repr

/-- A document. -/
structure Document where
  /-- The outermost node, nothing if the text has no document. -/
  root : Option Node
  anchored : List Anchored
  deriving Repr

/-- The node that a number stands for. Of several the one that starts last counts. -/
def Document.target? (document : Document) (anchor : Nat) : Option Node :=
  let candidates := document.anchored.filter (·.anchor == anchor)
  (candidates.foldl
    (fun best candidate =>
      match best with
      | none => some candidate
      | some held => if held.start < candidate.start then some candidate else some held)
    none).map Anchored.node

/-! ## Reading nodes -/

/-- The state of reading nodes. -/
structure Composition where
  tokens : List Token
  /-- The handles of tags that are declared, each with the bytes that it stands for. -/
  handles : List (String × List UInt8) := []
  /-- The names that are bound, each with its number. -/
  names : List (String × Nat) := []
  /-- The number of anchors so far. -/
  starts : Nat := 0
  anchored : List Anchored := []

/-- Reading with a state that may fail. -/
abbrev Composer := StateT Composition (Except Fault)

namespace Composer

/-- The next token. -/
def peek : Composer Token := do
  return (← get).tokens.headD .streamEnd

/-- Passes over the next token. -/
def skip : Composer Unit := modify fun state => { state with tokens := state.tokens.tail }

/-- The number of a name that is bound. -/
def resolve (name : String) : Composer Nat := do
  match (← get).names.lookup name with
  | some anchor => return anchor
  | none => throw .undefinedAlias

/-- Binds a name: the number by which aliases refer to it from now on, and the number of
anchors before it. -/
def bind (name : String) : Composer (Nat × Nat) := do
  let state ← get
  let anchor := state.names.length
  let others := state.names.filter (·.1 != name)
  set { state with names := (name, anchor) :: others, starts := state.starts + 1 }
  return (anchor, state.starts)

/-- Keeps a node with its anchor. -/
def keep (anchor start : Nat) (node : Node) : Composer Unit :=
  modify fun state => { state with anchored := ⟨anchor, start, node⟩ :: state.anchored }

/-- The properties of a node. -/
structure Properties where
  anchor : Option String := none
  tag : Option (List UInt8) := none

/-- There is at least one property. -/
def Properties.any (properties : Properties) : Bool :=
  properties.anchor.isSome || properties.tag.isSome

/-- A tag in full. Its handle must be declared. -/
def fullTag (handle : String) (name : List UInt8) : Composer (List UInt8) := do
  if handle = "" then return name
  match (← get).handles.lookup handle with
  | some meaning => return meaning ++ name
  | none => throw .undefinedTag

/-- The anchor and the tag before a node, in any order. -/
def properties : Composer Properties := do
  match ← peek with
  | .anchor anchor =>
    skip
    match ← peek with
    | .tag handle name =>
      skip
      return ⟨some anchor, ← fullTag handle name⟩
    | _ => return ⟨some anchor, none⟩
  | .tag handle name =>
    skip
    match ← peek with
    | .anchor anchor =>
      skip
      return ⟨some anchor, ← fullTag handle name⟩
    | _ => return ⟨none, ← fullTag handle name⟩
  | _ => return {}

/-- What may stand at a place. -/
inductive Place where
  | flow
  | block
  /-- A value or a key in a block mapping, where the items of a sequence need not be
  indented. -/
  | blockPair
  deriving DecidableEq, Repr

mutual

/-- A node. -/
def node : Nat → Place → Composer Node
  | 0, _ => throw .unexpectedToken
  | steps + 1, place => do
    match ← peek with
    | .alias name =>
      skip
      return .alias (← resolve name)
    | _ =>
      let properties ← properties
      match properties.anchor with
      | none => content steps place properties
      | some name =>
        let (anchor, start) ← bind name
        let inner ← content steps place properties
        keep anchor start inner
        return inner

/-- A node behind its properties. -/
def content : Nat → Place → Properties → Composer Node
  | 0, _, _ => throw .unexpectedToken
  | steps + 1, place, properties => do
    match ← peek, place with
    | .blockEntry, .blockPair => return .sequence (← flushItems steps)
    | .scalar text style, _ =>
      skip
      return .scalar text style properties.tag
    | .flowSequenceStart, _ =>
      skip
      return .sequence (← flowItems steps true)
    | .flowMappingStart, _ =>
      skip
      return .mapping (← flowPairs steps true)
    | .blockSequenceStart, .block | .blockSequenceStart, .blockPair =>
      skip
      return .sequence (← blockItems steps)
    | .blockMappingStart, .block | .blockMappingStart, .blockPair =>
      skip
      return .mapping (← blockPairs steps)
    | _, _ => if properties.any then return .nothing else throw .unexpectedToken

/-- The items of a block sequence. -/
def blockItems : Nat → Composer (List Node)
  | 0 => throw .unexpectedToken
  | steps + 1 => do
    match ← peek with
    | .blockEntry =>
      skip
      let item ←
        match ← peek with
        | .blockEntry | .blockEnd => pure .nothing
        | _ => node steps .block
      return item :: (← blockItems steps)
    | .blockEnd =>
      skip
      return []
    | _ => throw .unexpectedToken

/-- The items of a sequence that is not indented further than the mapping around it. -/
def flushItems : Nat → Composer (List Node)
  | 0 => throw .unexpectedToken
  | steps + 1 => do
    match ← peek with
    | .blockEntry =>
      skip
      let item ←
        match ← peek with
        | .blockEntry | .key | .value | .blockEnd => pure .nothing
        | _ => node steps .block
      return item :: (← flushItems steps)
    | _ => return []

/-- The pairs of a block mapping. A key or a value may be missing. -/
def blockPairs : Nat → Composer (List (Node × Node))
  | 0 => throw .unexpectedToken
  | steps + 1 => do
    match ← peek with
    | .key =>
      skip
      let key ←
        match ← peek with
        | .key | .value | .blockEnd => pure .nothing
        | _ => node steps .blockPair
      let value ← blockValue steps
      return (key, value) :: (← blockPairs steps)
    | .blockEnd =>
      skip
      return []
    | _ => throw .unexpectedToken

/-- The value of a pair in a block mapping. -/
def blockValue : Nat → Composer Node
  | 0 => throw .unexpectedToken
  | steps + 1 => do
    match ← peek with
    | .value =>
      skip
      match ← peek with
      | .key | .value | .blockEnd => return .nothing
      | _ => node steps .blockPair
    | _ => return .nothing

/-- The items of a flow sequence. A comma stands between two items and may stand behind
the last. -/
def flowItems : Nat → Bool → Composer (List Node)
  | 0, _ => throw .unexpectedToken
  | steps + 1, first => do
    match ← peek with
    | .flowSequenceEnd =>
      skip
      return []
    | token =>
      if !first then
        match token with
        | .flowEntry => skip
        | _ => throw .unexpectedToken
      match ← peek with
      | .flowSequenceEnd =>
        skip
        return []
      | .key =>
        skip
        let pair ← singlePair steps
        return .mapping [pair] :: (← flowItems steps false)
      | _ =>
        let item ← node steps .flow
        return item :: (← flowItems steps false)

/-- A pair that stands for a whole mapping in a flow sequence. A token that cannot start
its key is passed over. -/
def singlePair : Nat → Composer (Node × Node)
  | 0 => throw .unexpectedToken
  | steps + 1 => do
    let key ←
      match ← peek with
      | .value | .flowEntry | .flowSequenceEnd =>
        skip
        pure .nothing
      | _ => node steps .flow
    match ← peek with
    | .value =>
      skip
      match ← peek with
      | .flowEntry | .flowSequenceEnd => return (key, .nothing)
      | _ => return (key, ← node steps .flow)
    | _ => return (key, .nothing)

/-- The pairs of a flow mapping. A node that is no key has no value. -/
def flowPairs : Nat → Bool → Composer (List (Node × Node))
  | 0, _ => throw .unexpectedToken
  | steps + 1, first => do
    match ← peek with
    | .flowMappingEnd =>
      skip
      return []
    | token =>
      if !first then
        match token with
        | .flowEntry => skip
        | _ => throw .unexpectedToken
      match ← peek with
      | .flowMappingEnd =>
        skip
        return []
      | .key =>
        skip
        let key ←
          match ← peek with
          | .value | .flowEntry | .flowMappingEnd => pure .nothing
          | _ => node steps .flow
        let value ← flowValue steps
        return (key, value) :: (← flowPairs steps false)
      | _ =>
        let key ← node steps .flow
        return (key, .nothing) :: (← flowPairs steps false)

/-- The value of a pair in a flow mapping. -/
def flowValue : Nat → Composer Node
  | 0 => throw .unexpectedToken
  | steps + 1 => do
    match ← peek with
    | .value =>
      skip
      match ← peek with
      | .flowEntry | .flowMappingEnd => return .nothing
      | _ => node steps .flow
    | _ => return .nothing

end

/-! ## Reading documents -/

/-- The handles that need no declaration. -/
def standardHandles : List (String × List UInt8) :=
  [("!", Text.encode "!"), ("!!", Text.encode "tag:yaml.org,2002:")]

/-- The directives before a document, in at most some number of steps. -/
def directives : Nat → Bool → Composer Unit
  | 0, _ => throw .malformedDirective
  | steps + 1, hasVersion => do
    match ← peek with
    | .version major minor =>
      if hasVersion ∨ major ≠ 1 ∨ (minor ≠ 1 ∧ minor ≠ 2) then throw .malformedDirective
      skip
      directives steps true
    | .tagHandle handle meaning =>
      if ((← get).handles.lookup handle).isSome then throw .malformedDirective
      modify fun state => { state with handles := (handle, meaning) :: state.handles }
      skip
      directives steps hasVersion
    | _ => modify fun state => { state with handles := state.handles ++ standardHandles }

/-- What stands behind the mark that starts a document. -/
def markedContent (steps : Nat) : Composer Node := do
  match ← peek with
  | .version _ _ | .tagHandle _ _ | .documentStart | .documentEnd | .streamEnd => return .nothing
  | _ => node steps .block

/-- Passes over the marks at the end of the document, in at most some number of steps.
Nothing else may follow. -/
def documentEnds : Nat → Composer Unit
  | 0 => throw .severalDocuments
  | steps + 1 => do
    match ← peek with
    | .documentEnd =>
      skip
      documentEnds steps
    | .streamEnd => return
    | _ => throw .severalDocuments

/-- The only document of a text. -/
def document (steps : Nat) : Composer (Option Node) := do
  match ← peek with
  | .streamEnd => return none
  | .version _ _ | .tagHandle _ _ | .documentStart =>
    directives steps false
    match ← peek with
    | .documentStart =>
      skip
      let root ← markedContent steps
      documentEnds steps
      return some root
    | _ => throw .unexpectedToken
  | _ =>
    directives steps false
    let root ← node steps .block
    documentEnds steps
    return some root

end Composer

/-- Reads the only document of a text. -/
def parse (text : List Char) : Except Fault Document := do
  let tokens ← tokens text
  let (root, state) ← (Composer.document (3 * tokens.length + 3)).run { tokens := tokens }
  return ⟨root, state.anchored⟩

end TiltMenu.Yaml
