/-!
# JSON values

A value of the JSON grammar. Two things are kept apart that JSON writes alike. A
number is an integer if it is written without fraction and exponent and is not
minus zero; of all other numbers only that they are numbers is kept. The content
of a string is a text, or nothing if the string is written with an escape for
half of a surrogate pair, which is no character.

The members of an object are kept as written, repetitions included.
-/

set_option autoImplicit false

namespace TiltMenu

/-- A JSON value. -/
inductive Json where
  | null
  | bool (value : Bool)
  | integer (value : Int)
  /-- A number that is no integer. -/
  | decimal
  | string (content : Option String)
  | array (items : List Json)
  | object (members : List (Option String × Json))
  deriving Repr, Inhabited

namespace Json

/-- The members of an object that have one of the names known, or `none` if one of
these is repeated or if a name is no text. Members of other names are left out. -/
def knownMembers? (known : List String) :
    List (Option String × Json) → Option (List (String × Json))
  | [] => some []
  | (none, _) :: _ => none
  | (some name, value) :: rest =>
    match knownMembers? known rest with
    | none => none
    | some later =>
      if name ∈ known then
        if (later.lookup name).isSome then none else some ((name, value) :: later)
      else some later

end Json

end TiltMenu
