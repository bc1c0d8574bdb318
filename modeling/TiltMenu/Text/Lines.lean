/-!
# Cutting into lines

A sequence of characters or of bytes is cut after every terminator, so that
each piece keeps its own and only the last may lack one. The pieces put
together are the sequence again (`flatten_pieces`). The lines of a text are its
pieces without the newline and without a carriage return right before it.
-/

set_option autoImplicit false

namespace TiltMenu.Text

variable {α : Type}

/-- Cuts after every element that ends a piece. No piece is empty. -/
def pieces (isEnd : α → Bool) : List α → List (List α)
  | [] => []
  | first :: rest =>
    if isEnd first then [first] :: pieces isEnd rest
    else match pieces isEnd rest with
      | [] => [[first]]
      | piece :: later => (first :: piece) :: later

/-- Cutting loses nothing and keeps the order. -/
theorem flatten_pieces (isEnd : α → Bool) (whole : List α) :
    (pieces isEnd whole).flatten = whole := by
  induction whole with
  | nil => rfl
  | cons first rest ih =>
    simp only [pieces]
    split
    · simp [ih]
    · split <;> simp_all

/-- The line without its newline, and without one carriage return before that
newline. A line that has no newline keeps its carriage return. -/
def dropTerminator (line : List Char) : List Char :=
  match line.reverse with
  | '\n' :: '\r' :: body => body.reverse
  | '\n' :: body => body.reverse
  | _ => line

/-- The lines of a text, without their terminators. A newline at the very end
starts no further line. -/
def lines (text : List Char) : List (List Char) :=
  (pieces (· == '\n') text).map dropTerminator

end TiltMenu.Text
