import TiltMenu.Text.Lines
import TiltMenu.Text.Utf8

/-!
# Reading lines of bytes

A reader delivers its bytes in chunks, cut anywhere, and may fail in between.
`readLine` takes the bytes up to and including the next newline, or up to the
end of the input. A failure loses the bytes of the line read so far; an
interruption is no failure, reading goes on after it.

Reading ends: every line read leaves less to read (`weight_readLine_lt`).
-/

set_option autoImplicit false

namespace TiltMenu.Input

/-- How a reader can fail. -/
inductive Failure where
  /-- The read was interrupted and is tried again. -/
  | interrupted
  /-- The reader found its data malformed. -/
  | invalidData
  /-- Any other failure. -/
  | other
  deriving DecidableEq, Repr

/-- What a reader delivers at a time. -/
inductive Chunk where
  | bytes (content : List UInt8)
  | failure (kind : Failure) (reason : String)
  deriving DecidableEq, Repr

/-- The byte that ends a line. -/
def newline : UInt8 := 10

/-- The bytes of one line, or why there are none. -/
inductive RawLine where
  | bytes (content : List UInt8)
  | failed (kind : Failure) (reason : String)
  deriving DecidableEq, Repr

/-- The amount left to read: each chunk counts for one more than its bytes. -/
def weight : List Chunk → Nat
  | [] => 0
  | .bytes content :: rest => content.length + 1 + weight rest
  | .failure _ _ :: rest => 1 + weight rest

/-- Takes the bytes of the next line on top of those collected, and what is left
to read. -/
def takeLine (collected : List UInt8) : List Chunk → RawLine × List Chunk
  | [] => (.bytes collected, [])
  | .failure .interrupted _ :: rest => takeLine collected rest
  | .failure kind reason :: rest => (.failed kind reason, rest)
  | .bytes content :: rest =>
    match content.dropWhile (· != newline) with
    | [] => takeLine (collected ++ content) rest
    | ending :: left =>
      (.bytes (collected ++ content.takeWhile (· != newline) ++ [ending]), .bytes left :: rest)

theorem weight_takeLine_le (collected : List UInt8) (chunks : List Chunk) :
    weight (takeLine collected chunks).2 ≤ weight chunks := by
  fun_induction takeLine collected chunks with
  | case1 => simp
  | case2 collected _ rest ih => simp only [weight]; omega
  | case3 collected kind reason rest _ => simp only [weight]; omega
  | case4 collected content rest _ ih => simp only [weight]; omega
  | case5 collected content rest ending left found =>
    have shorter : (ending :: left).length ≤ content.length :=
      found ▸ (List.dropWhile_sublist _).length_le
    simp only [weight, List.length_cons] at shorter ⊢
    omega

/-- Reading a line from what is not exhausted leaves less to read. -/
theorem weight_takeLine_lt (collected : List UInt8) (chunks : List Chunk)
    (more : chunks ≠ []) : weight (takeLine collected chunks).2 < weight chunks := by
  match chunks with
  | [] => exact absurd rfl more
  | .failure .interrupted _ :: rest =>
    have := weight_takeLine_le collected rest
    simp only [takeLine, weight]
    omega
  | .failure .invalidData _ :: rest => simp only [takeLine, weight]; omega
  | .failure .other _ :: rest => simp only [takeLine, weight]; omega
  | .bytes content :: rest =>
    simp only [takeLine]
    split
    · have := weight_takeLine_le (collected ++ content) rest
      simp only [weight]
      omega
    · next ending left found =>
      have shorter : (ending :: left).length ≤ content.length :=
        found ▸ (List.dropWhile_sublist _).length_le
      simp only [weight, List.length_cons] at shorter ⊢
      omega

/-- One attempt to read a line of text. -/
inductive LineRead where
  | endOfInput
  /-- A line with its newline, or the rest of the input without one. -/
  | line (text : String)
  /-- The line is not valid text, or the reader calls its data malformed. -/
  | undecodable (reason : String)
  /-- The reader failed. -/
  | failed (reason : String)
  deriving DecidableEq, Repr

/-- What the bytes of a line amount to. -/
def LineRead.ofRaw : RawLine → LineRead
  | .failed .invalidData reason => .undecodable reason
  | .failed _ reason => .failed reason
  | .bytes [] => .endOfInput
  | .bytes content =>
    match Text.decode? content with
    | some text => .line text
    | none => .undecodable "stream did not contain valid UTF-8"

/-- Reads the next line of text, and what is left to read. -/
def readLine (chunks : List Chunk) : LineRead × List Chunk :=
  let taken := takeLine [] chunks
  (LineRead.ofRaw taken.1, taken.2)

/-- Only the end of the input leaves as much to read as before. -/
theorem weight_readLine_lt (chunks : List Chunk)
    (more : (readLine chunks).1 ≠ .endOfInput) : weight (readLine chunks).2 < weight chunks := by
  apply weight_takeLine_lt
  rintro rfl
  exact more rfl

end TiltMenu.Input
