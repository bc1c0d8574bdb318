import TiltMenu.Proofs.Text.Pieces

/-!
# The order of texts and of their bytes

Texts are compared character by character, and their UTF-8 forms byte by byte. A text that is less
has a form that is less (`encode_lt_encode`): the forms of two characters differ at a byte that
both have, and there the greater character has the greater byte.
-/

set_option autoImplicit false

namespace TiltMenu.Text

/-- A first byte that is less decides, whatever follows. -/
theorem ofNat_cons_lt {first second : Nat} (below : first < second) (bound : second < 256)
    (left right : List UInt8) : UInt8.ofNat first :: left < UInt8.ofNat second :: right := by
  refine List.cons_lt_cons_iff.mpr (.inl ?_)
  rw [UInt8.lt_iff_toNat_lt, UInt8.toNat_ofNat', UInt8.toNat_ofNat']
  omega

/-- Of as many bytes the lesser are less, whatever follows. -/
theorem map_ofNat_append_lt (first second : List Nat) (below : first < second)
    (same : first.length = second.length) (bytes : ∀ byte ∈ second, byte < 256)
    (left right : List UInt8) :
    first.map UInt8.ofNat ++ left < second.map UInt8.ofNat ++ right := by
  induction first generalizing second with
  | nil =>
    rw [List.length_nil] at same
    rw [List.eq_nil_of_length_eq_zero same.symm] at below
    exact absurd below (List.not_lt_nil _)
  | cons byte rest ih =>
    cases second with
    | nil => exact absurd below (List.not_lt_nil _)
    | cons other others =>
      obtain ⟨here, later⟩ := List.forall_mem_cons.mp bytes
      rcases List.cons_lt_cons_iff.mp below with less | ⟨rfl, behind⟩
      · exact ofNat_cons_lt less here _ _
      · exact List.cons_lt_cons_iff.mpr (.inr ⟨rfl, ih others behind (Nat.succ.inj same) later⟩)

/-- **The form of a lesser character is less, whatever follows.** -/
theorem utf8EncodeChar_append_lt {first second : Char} (below : first < second)
    (left right : List UInt8) :
    String.utf8EncodeChar first ++ left < String.utf8EncodeChar second ++ right := by
  have less : first.val.toNat < second.val.toNat := below
  have bound : second.val.toNat < 1114112 := by
    have valid := second.valid
    simp only [UInt32.isValidChar, Nat.isValidChar] at valid
    omega
  simp only [String.utf8EncodeChar]
  generalize first.val.toNat = lower at less ⊢
  generalize second.val.toNat = upper at less bound ⊢
  -- A form with fewer bytes has the lesser first byte. Forms of one length compare all theirs.
  by_cases one : lower ≤ 127
  · rw [if_pos one]
    split
    · exact ofNat_cons_lt less (by omega) _ _
    · split
      · exact ofNat_cons_lt (by omega) (by omega) _ _
      · split
        · exact ofNat_cons_lt (by omega) (by omega) _ _
        · exact ofNat_cons_lt (by omega) (by omega) _ _
  · rw [if_neg one, if_neg (show ¬upper ≤ 127 by omega)]
    by_cases two : lower ≤ 2047
    · rw [if_pos two]
      split
      · refine map_ofNat_append_lt [_, _] [_, _] ?_ (by rfl) ?_ left right
        · simp only [List.cons_lt_cons_iff]
          omega
        · simp only [List.forall_mem_cons]
          exact ⟨by omega, by omega, List.forall_mem_nil _⟩
      · split
        · exact ofNat_cons_lt (by omega) (by omega) _ _
        · exact ofNat_cons_lt (by omega) (by omega) _ _
    · rw [if_neg two, if_neg (show ¬upper ≤ 2047 by omega)]
      by_cases three : lower ≤ 65535
      · rw [if_pos three]
        split
        · refine map_ofNat_append_lt [_, _, _] [_, _, _] ?_ (by rfl) ?_ left right
          · simp only [List.cons_lt_cons_iff]
            omega
          · simp only [List.forall_mem_cons]
            exact ⟨by omega, by omega, by omega, List.forall_mem_nil _⟩
        · exact ofNat_cons_lt (by omega) (by omega) _ _
      · rw [if_neg three, if_neg (show ¬upper ≤ 65535 by omega)]
        refine map_ofNat_append_lt [_, _, _, _] [_, _, _, _] ?_ (by rfl) ?_ left right
        · simp only [List.cons_lt_cons_iff]
          -- The first quotient that differs decides.
          by_cases top : lower / 262144 = upper / 262144
          · by_cases middle : lower / 4096 = upper / 4096
            · exact .inr ⟨by omega, .inr ⟨by omega, by omega⟩⟩
            · exact .inr ⟨by omega, .inl (by omega)⟩
          · exact .inl (by omega)
        · simp only [List.forall_mem_cons]
          exact ⟨by omega, by omega, by omega, by omega, List.forall_mem_nil _⟩

/-- **A lesser text has the lesser bytes.** -/
theorem encode_lt_encode {first second : String} (below : first < second) :
    encode first < encode second := by
  rw [encode_eq, encode_eq]
  have characters : first.toList < second.toList := below
  generalize first.toList = lower at characters ⊢
  generalize second.toList = upper at characters ⊢
  induction characters with
  | @nil head rest =>
    obtain ⟨byte, later, form⟩ :=
      List.exists_cons_of_ne_nil (String.utf8EncodeChar_ne_nil (c := head))
    rw [encodeChars, encodeChars, List.flatMap_nil, List.flatMap_cons, form]
    exact List.nil_lt_cons _ _
  | rel less =>
    rw [encodeChars, encodeChars, List.flatMap_cons, List.flatMap_cons]
    exact utf8EncodeChar_append_lt less _ _
  | cons _ ih =>
    rw [encodeChars, encodeChars, List.flatMap_cons, List.flatMap_cons]
    exact List.append_left_lt ih

end TiltMenu.Text
