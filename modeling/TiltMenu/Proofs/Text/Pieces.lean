import TiltMenu.Text.Blank
import TiltMenu.Text.Lines
import TiltMenu.Text.Utf8

/-!
# Pieces of texts and of bytes

Characters that end no piece only make the first piece longer (`pieces_append`). So the
pieces are found one after another: a run of such characters and the end after it is a
piece (`pieces_append_end`), and what follows any end is cut by itself
(`pieces_concat_append`).

In the UTF-8 form of a text a newline byte stands for a newline and is part of no other
character (`mem_utf8EncodeChar_iff`). Hence cutting bytes and cutting characters is the same
(`pieces_encodeChars`).
-/

set_option autoImplicit false

namespace TiltMenu.Text

section Cutting

variable {α : Type} {isEnd : α → Bool}

/-- A body without the ending has nothing that ends a piece. -/
theorem inside_of_not_mem [BEq α] [LawfulBEq α] {ending : α} {body : List α}
    (absent : ending ∉ body) : ∀ element ∈ body, (element == ending) = false := by
  intro element member
  rw [beq_eq_false_iff_ne]
  rintro rfl
  exact absent member

/-- Puts elements in front of the first piece. -/
def lengthen (body : List α) : List (List α) → List (List α)
  | [] => [body]
  | piece :: later => (body ++ piece) :: later

/-- Elements that end no piece make the first piece longer. -/
theorem pieces_append {body : List α} (inside : ∀ element ∈ body, isEnd element = false)
    (nonempty : body ≠ []) (rest : List α) :
    pieces isEnd (body ++ rest) = lengthen body (pieces isEnd rest) := by
  induction body with
  | nil => exact absurd rfl nonempty
  | cons first later ih =>
    have plain := inside first List.mem_cons_self
    have tail : ∀ element ∈ later, isEnd element = false := fun element member =>
      inside element (List.mem_cons_of_mem first member)
    rw [List.cons_append, pieces, if_neg (by simp [plain])]
    by_cases last : later = []
    · subst last
      rw [List.nil_append]
      cases pieces isEnd rest <;> rfl
    · rw [ih tail last]
      cases pieces isEnd rest <;> rfl

/-- A run of elements that end no piece is one piece. -/
theorem pieces_of_inside {body : List α} (inside : ∀ element ∈ body, isEnd element = false)
    (nonempty : body ≠ []) : pieces isEnd body = [body] := by
  have whole := pieces_append inside nonempty []
  rw [List.append_nil] at whole
  exact whole

/-- **The first piece reaches up to the first end.** -/
theorem pieces_append_end {body : List α} (inside : ∀ element ∈ body, isEnd element = false)
    {ending : α} (ends : isEnd ending = true) (rest : List α) :
    pieces isEnd (body ++ ending :: rest) = (body ++ [ending]) :: pieces isEnd rest := by
  have here : pieces isEnd (ending :: rest) = [ending] :: pieces isEnd rest := by
    rw [pieces, if_pos ends]
  by_cases empty : body = []
  · subst empty
    exact here
  · rw [pieces_append inside empty, here]
    rfl

/-- **What follows an end is cut by itself.** -/
theorem pieces_concat_append (body : List α) {ending : α} (ends : isEnd ending = true)
    (rest : List α) :
    pieces isEnd (body ++ ending :: rest) =
      pieces isEnd (body ++ [ending]) ++ pieces isEnd rest := by
  induction body with
  | nil => simp [pieces, ends]
  | cons first later ih =>
    rw [List.cons_append, List.cons_append, pieces, pieces, ih]
    split
    · rfl
    · cases cut : pieces isEnd (later ++ [ending]) with
      | nil =>
        -- The pieces put together are the list, so there is at least one.
        have whole := flatten_pieces isEnd (later ++ [ending])
        rw [cut] at whole
        exact absurd whole.symm (List.append_ne_nil_of_right_ne_nil later (List.cons_ne_nil _ _))
      | cons piece others => rfl

/-- **A piece has an end in the last place or nowhere.** -/
theorem shape_of_mem_pieces {whole piece : List α} (member : piece ∈ pieces isEnd whole) :
    piece ≠ [] ∧ ∃ body, (∀ element ∈ body, isEnd element = false) ∧
      (piece = body ∨ ∃ ending, isEnd ending = true ∧ piece = body ++ [ending]) := by
  induction whole generalizing piece with
  | nil => cases member
  | cons first rest ih =>
    rw [pieces] at member
    split at member
    · next ends =>
      rcases List.mem_cons.mp member with rfl | later
      · exact ⟨by simp, [], by simp, .inr ⟨first, ends, rfl⟩⟩
      · exact ih later
    · next plain =>
      have lone : isEnd first = false := by simpa using plain
      cases cut : pieces isEnd rest with
      | nil =>
        rw [cut] at member
        rw [List.mem_singleton.mp member]
        exact ⟨by simp, [first], by simpa using lone, .inl rfl⟩
      | cons held others =>
        rw [cut] at member
        rcases List.mem_cons.mp member with rfl | later
        · obtain ⟨_, body, inside, shape⟩ := ih (cut ▸ List.mem_cons_self)
          refine ⟨by simp, first :: body, List.forall_mem_cons.mpr ⟨lone, inside⟩, ?_⟩
          rcases shape with rfl | ⟨ending, ends, rfl⟩
          · exact .inl rfl
          · exact .inr ⟨ending, ends, rfl⟩
        · exact ih (cut ▸ List.mem_cons_of_mem held later)

/-- **Only the last piece may lack an end.** -/
theorem getLast?_of_mem_dropLast_pieces {whole piece : List α}
    (member : piece ∈ (pieces isEnd whole).dropLast) :
    ∃ ending, piece.getLast? = some ending ∧ isEnd ending = true := by
  induction whole generalizing piece with
  | nil => cases member
  | cons first rest ih =>
    rw [pieces] at member
    split at member
    · next ends =>
      cases cut : pieces isEnd rest with
      | nil =>
        rw [cut] at member
        cases member
      | cons held others =>
        rw [cut, List.dropLast_cons_cons, List.mem_cons, ← cut] at member
        rcases member with rfl | later
        · exact ⟨first, rfl, ends⟩
        · exact ih later
    · cases cut : pieces isEnd rest with
      | nil =>
        rw [cut] at member
        cases member
      | cons held others =>
        rw [cut] at member ih
        cases others with
        | nil => cases member
        | cons next others =>
          rw [List.dropLast_cons_cons, List.mem_cons] at member
          rcases member with rfl | later
          · obtain ⟨ending, last, ends⟩ := ih List.mem_cons_self
            exact ⟨ending, by rw [List.getLast?_cons, last]; rfl, ends⟩
          · exact ih (List.mem_cons_of_mem held later)

end Cutting

/-! ## Bytes -/

/-- The UTF-8 bytes of characters. -/
def encodeChars (text : List Char) : List UInt8 := text.flatMap String.utf8EncodeChar

theorem encode_eq (text : String) : encode text = encodeChars text.toList := by
  obtain ⟨characters, rfl⟩ := text.exists_eq_ofList
  rw [String.toList_ofList, encode, String.toUTF8, String.toByteArray_ofList, List.utf8Encode,
    List.data_toByteArray, encodeChars]

/-- A byte below 128 in the UTF-8 form of a character is all of that form. -/
theorem utf8EncodeChar_of_mem {character : Char} {byte : UInt8} (ascii : byte.toNat < 128)
    (member : byte ∈ String.utf8EncodeChar character) :
    String.utf8EncodeChar character = [byte] ∧ character.toNat = byte.toNat := by
  have high : ∀ value, 128 ≤ value → value < 256 → byte ≠ UInt8.ofNat value := by
    rintro value lower upper rfl
    rw [UInt8.toNat_ofNat', Nat.mod_eq_of_lt upper] at ascii
    omega
  simp only [String.utf8EncodeChar] at member ⊢
  split at member
  · next small =>
    rw [List.mem_singleton] at member
    subst member
    rw [if_pos small, UInt8.toNat_ofNat', Nat.mod_eq_of_lt (by omega)]
    exact ⟨rfl, rfl⟩
  · split at member
    · simp only [List.mem_cons, List.not_mem_nil, or_false] at member
      rcases member with same | same
      · exact absurd same (high _ (by omega) (by omega))
      · exact absurd same (high _ (by omega) (by omega))
    · split at member
      · simp only [List.mem_cons, List.not_mem_nil, or_false] at member
        rcases member with same | same | same
        · exact absurd same (high _ (by omega) (by omega))
        · exact absurd same (high _ (by omega) (by omega))
        · exact absurd same (high _ (by omega) (by omega))
      · simp only [List.mem_cons, List.not_mem_nil, or_false] at member
        rcases member with same | same | same | same
        · exact absurd same (high _ (by omega) (by omega))
        · exact absurd same (high _ (by omega) (by omega))
        · exact absurd same (high _ (by omega) (by omega))
        · exact absurd same (high _ (by omega) (by omega))

/-- **A newline byte belongs to a newline.** -/
theorem mem_utf8EncodeChar_iff (character : Char) :
    10 ∈ String.utf8EncodeChar character ↔ character = '\n' := by
  constructor
  · intro member
    obtain ⟨_, same⟩ := utf8EncodeChar_of_mem (by decide) member
    exact Char.toNat_inj.mp same
  · rintro rfl
    decide

/-- **Cutting the bytes of a text after every newline is cutting the text.** -/
theorem pieces_encodeChars (text : List Char) :
    pieces (· == 10) (encodeChars text) = (pieces (· == '\n') text).map encodeChars := by
  induction text with
  | nil => rfl
  | cons first rest ih =>
    by_cases ends : first = '\n'
    · subst ends
      show [10] :: pieces (· == 10) (encodeChars rest) =
        (['\n'] :: pieces (· == '\n') rest).map encodeChars
      rw [List.map_cons, ih]
      rfl
    · have absent : 10 ∉ String.utf8EncodeChar first := mt (mem_utf8EncodeChar_iff first).mp ends
      rw [encodeChars, List.flatMap_cons, ← encodeChars, pieces_append (inside_of_not_mem absent)
        String.utf8EncodeChar_ne_nil, ih, pieces, if_neg (by simpa using ends)]
      cases pieces (· == '\n') rest with
      | nil => simp [lengthen, encodeChars]
      | cons piece later => simp [lengthen, encodeChars]

end TiltMenu.Text
