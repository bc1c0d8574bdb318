/-!
# Splitting a command line into words

A command line is a list of words, the first of which names a command or an
action. It is written with the quoting of the POSIX shell: words are separated
by spaces, tabs and newlines; single quotes keep everything up to the next
single quote; double quotes and backslashes escape; a `#` at the start of a word
opens a comment that lasts to the end of the line.

`split?` gives the words, or `none` for a text that ends inside a quote or right
after a backslash.
-/

set_option autoImplicit false

namespace TiltMenu

/-- One command with its arguments. -/
abbrev CommandLine := List String

namespace CommandLine

/-- Where the splitting of a text stands between two characters. -/
inductive Mode where
  /-- Between two words. -/
  | between
  /-- In a comment. -/
  | comment
  /-- In a word, outside quotes. -/
  | bare
  /-- In a word, after a backslash outside quotes. -/
  | escaped
  /-- In a word, inside single quotes. -/
  | single
  /-- In a word, inside double quotes. -/
  | double
  /-- In a word, after a backslash inside double quotes. -/
  | doubleEscaped
  deriving DecidableEq, Repr

/-- The characters that separate words. -/
def isSeparator (character : Char) : Bool :=
  character == ' ' || character == '\t' || character == '\n'

/-- The characters that a backslash escapes inside double quotes. Before any
other character, a newline apart, the backslash stands for itself. -/
def isDoubleEscapable (character : Char) : Bool :=
  character == '$' || character == '\x60' || character == '"' || character == '\\'

/-- The effect of a character of a word outside quotes that separates nothing:
the mode after it and what it adds to the word. -/
def enter : Char → Mode × List Char
  | '"' => (.double, [])
  | '\'' => (.single, [])
  | '\\' => (.escaped, [])
  | character => (.bare, [character])

/-- What is left of a text to split. -/
structure Split where
  /-- The rest of the word that is open, nothing if none is. -/
  current : List Char
  /-- The words that begin later. -/
  later : List (List Char)
  deriving DecidableEq, Repr

namespace Split

/-- Adds characters in front of the open word. -/
def add (characters : List Char) (split : Split) : Split :=
  { split with current := characters ++ split.current }

/-- The open word begins here. -/
def opening (characters : List Char) (split : Split) : Split :=
  ⟨[], (characters ++ split.current) :: split.later⟩

end Split

/-- Splits the rest of a text that is read up to some mode. -/
def splitFrom : Mode → List Char → Option Split
  | .between, [] | .comment, [] | .bare, [] => some ⟨[], []⟩
  | .escaped, [] | .single, [] | .double, [] | .doubleEscaped, [] => none
  | .between, first :: rest =>
    if isSeparator first then splitFrom .between rest
    else if first = '#' then splitFrom .comment rest
    else (splitFrom (enter first).1 rest).map (Split.opening (enter first).2)
  | .comment, first :: rest => splitFrom (if first = '\n' then .between else .comment) rest
  | .bare, first :: rest =>
    if isSeparator first then splitFrom .between rest
    else (splitFrom (enter first).1 rest).map (Split.add (enter first).2)
  | .escaped, first :: rest =>
    (splitFrom .bare rest).map (Split.add (if first = '\n' then [] else [first]))
  | .single, first :: rest =>
    if first = '\'' then splitFrom .bare rest
    else (splitFrom .single rest).map (Split.add [first])
  | .double, first :: rest =>
    if first = '"' then splitFrom .bare rest
    else if first = '\\' then splitFrom .doubleEscaped rest
    else (splitFrom .double rest).map (Split.add [first])
  | .doubleEscaped, first :: rest =>
    (splitFrom .double rest).map
      (Split.add (if first = '\n' then [] else if isDoubleEscapable first then [first]
        else ['\\', first]))

/-- The words of a text, or `none` if it ends inside a quote or after a
backslash. -/
def splitChars? (text : List Char) : Option (List (List Char)) :=
  (splitFrom .between text).map Split.later

/-- The words of a text, or `none` if it ends inside a quote or after a
backslash. -/
def split? (text : String) : Option CommandLine :=
  (splitChars? text.toList).map (List.map String.ofList)

end CommandLine

end TiltMenu
