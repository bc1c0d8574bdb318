/-!
# Lists in increasing order of a key

A list whose items have strictly increasing keys has at most one item for each
key, and two such lists with the same items are equal. Keys are compared
character by character, which is also the order of their UTF-8 bytes. Inserting
an item replaces the one that has its key (`mem_insert_iff`) and keeps the order
(`increasing_insert`). A list of keys has the same keys in order
(`mem_ofList_id_iff`).
-/

set_option autoImplicit false

namespace TiltMenu.Sorted

variable {α : Type} {key : α → String}

/-- The keys increase strictly along the list. -/
def Increasing (key : α → String) (items : List α) : Prop :=
  items.Pairwise fun first second => key first < key second

instance (items : List α) : Decidable (Increasing key items) :=
  inferInstanceAs (Decidable (items.Pairwise fun first second => key first < key second))

theorem Increasing.nodup {items : List α} (sorted : Increasing key items) : items.Nodup :=
  sorted.imp fun {first second} below same => by
    subst same
    exact String.lt_irrefl _ below

/-- **Lists in increasing order with the same items are equal.** -/
theorem eq_of_mem_iff {left right : List α} (leftSorted : Increasing key left)
    (rightSorted : Increasing key right) (same : ∀ item, item ∈ left ↔ item ∈ right) :
    left = right := by
  have rearranged := (List.perm_ext_iff_of_nodup leftSorted.nodup rightSorted.nodup).mpr same
  refine rearranged.eq_of_pairwise ?_ leftSorted rightSorted
  intro first second _ _ below above
  exact absurd (String.lt_trans below above) (String.lt_irrefl _)

/-- The list with an item put at its place. An item that has the same key makes
room for it. -/
def insert (key : α → String) (item : α) : List α → List α
  | [] => [item]
  | first :: rest =>
    if key item < key first then item :: first :: rest
    else if key item = key first then item :: rest
    else first :: insert key item rest

/-- The items of a list in increasing order. Of items with the same key the last
one stays. -/
def ofList (key : α → String) (items : List α) : List α :=
  items.foldl (fun sorted item => insert key item sorted) []

theorem mem_insert {item other : α} {items : List α} (member : other ∈ insert key item items) :
    other = item ∨ other ∈ items := by
  induction items with
  | nil => simpa [insert] using member
  | cons first rest ih =>
    simp only [insert] at member
    split at member
    · simpa using member
    · split at member
      · rcases List.mem_cons.mp member with same | later
        · exact .inl same
        · exact .inr (List.mem_cons_of_mem _ later)
      · rcases List.mem_cons.mp member with same | later
        · exact .inr (same ▸ List.mem_cons_self)
        · exact (ih later).imp id (List.mem_cons_of_mem _)

theorem increasing_insert (item : α) {items : List α} (sorted : Increasing key items) :
    Increasing key (insert key item items) := by
  induction items with
  | nil => simp [insert, Increasing]
  | cons first rest ih =>
    have above := (List.pairwise_cons.mp sorted).1
    have tail := (List.pairwise_cons.mp sorted).2
    simp only [insert]
    split
    · next below =>
      refine List.pairwise_cons.mpr ⟨fun other member => ?_, sorted⟩
      rcases List.mem_cons.mp member with same | later
      · exact same ▸ below
      · exact String.lt_trans below (above other later)
    · next notBelow =>
      split
      · next same =>
        exact List.pairwise_cons.mpr ⟨fun other member => same ▸ above other member, tail⟩
      · next different =>
        refine List.pairwise_cons.mpr ⟨fun other member => ?_, ih tail⟩
        rcases mem_insert member with same | later
        · subst same
          exact Std.lt_of_le_of_ne (Std.not_lt.mp notBelow) (Ne.symm different)
        · exact above other later

/-- Inserting leaves exactly the new item and those with another key. -/
theorem mem_insert_iff {item other : α} {items : List α} (sorted : Increasing key items) :
    other ∈ insert key item items ↔ other = item ∨ (other ∈ items ∧ key other ≠ key item) := by
  induction items with
  | nil => simp [insert]
  | cons first rest ih =>
    have above := (List.pairwise_cons.mp sorted).1
    have tail := (List.pairwise_cons.mp sorted).2
    simp only [insert]
    split
    · next below =>
      have apart : ∀ held ∈ first :: rest, key held ≠ key item := by
        intro held member
        rcases List.mem_cons.mp member with same | later
        · exact fun equal => String.lt_irrefl _ (equal ▸ same ▸ below)
        · exact fun equal => String.lt_irrefl _ (equal ▸ String.lt_trans below (above held later))
      simp only [List.mem_cons (a := other) (b := item)]
      exact or_congr_right ⟨fun member => ⟨member, apart other member⟩, And.left⟩
    · next notBelow =>
      split
      · next same =>
        have apart : ∀ held ∈ rest, key held ≠ key item := fun held later equal =>
          String.lt_irrefl _ (same.symm ▸ equal ▸ above held later)
        constructor
        · intro member
          rcases List.mem_cons.mp member with equal | later
          · exact .inl equal
          · exact .inr ⟨List.mem_cons_of_mem _ later, apart other later⟩
        · rintro (equal | ⟨member, different⟩)
          · exact equal ▸ List.mem_cons_self
          · rcases List.mem_cons.mp member with equal | later
            · exact absurd (equal ▸ same.symm) different
            · exact List.mem_cons_of_mem _ later
      · next different =>
        rw [List.mem_cons, List.mem_cons, ih tail]
        constructor
        · rintro (equal | equal | ⟨later, apart⟩)
          · exact .inr ⟨.inl equal, equal ▸ Ne.symm different⟩
          · exact .inl equal
          · exact .inr ⟨.inr later, apart⟩
        · rintro (equal | ⟨equal | later, apart⟩)
          · exact .inr (.inl equal)
          · exact .inl equal
          · exact .inr (.inr ⟨later, apart⟩)

theorem increasing_ofList (items : List α) : Increasing key (ofList key items) := by
  suffices general : ∀ sorted : List α, Increasing key sorted →
      Increasing key (items.foldl (fun sorted item => insert key item sorted) sorted) from
    general [] List.Pairwise.nil
  induction items with
  | nil => exact fun _ sorted => sorted
  | cons first rest ih => exact fun _ sorted => ih _ (increasing_insert first sorted)

/-- In a list that is its own keys nothing is replaced. -/
theorem mem_ofList_id_iff (name : String) (names : List String) :
    name ∈ ofList id names ↔ name ∈ names := by
  suffices general : ∀ sorted : List String, Increasing id sorted →
      (name ∈ names.foldl (fun sorted item => insert id item sorted) sorted ↔
        name ∈ sorted ∨ name ∈ names) from
    (general [] List.Pairwise.nil).trans (by simp)
  induction names with
  | nil => simp
  | cons first rest ih =>
    intro sorted increasing
    rw [List.foldl_cons, ih _ (increasing_insert first increasing), mem_insert_iff increasing,
      List.mem_cons]
    by_cases same : name = first
    · simp [same]
    · simp [same]

/-- An item above all others goes to the end. -/
theorem insert_of_above {item : α} {items : List α}
    (above : ∀ held ∈ items, key held < key item) : insert key item items = items ++ [item] := by
  induction items with
  | nil => rfl
  | cons first rest ih =>
    obtain ⟨below, others⟩ := List.forall_mem_cons.mp above
    have notBelow : ¬key item < key first := fun reverse =>
      String.lt_irrefl _ (String.lt_trans below reverse)
    have different : key item ≠ key first := fun same => String.lt_irrefl _ (same ▸ below)
    rw [insert, if_neg notBelow, if_neg different, ih others, List.cons_append]

/-- A list that is in increasing order stays as it is. -/
theorem ofList_of_increasing {items : List α} (sorted : Increasing key items) :
    ofList key items = items := by
  suffices general : ∀ front : List α, Increasing key (front ++ items) →
      items.foldl (fun sorted item => insert key item sorted) front = front ++ items from
    general [] sorted
  clear sorted
  induction items with
  | nil => exact fun front _ => (List.append_nil front).symm
  | cons first rest ih =>
    intro front sorted
    have above : ∀ held ∈ front, key held < key first := fun held member =>
      (List.pairwise_append.mp sorted).2.2 held member first List.mem_cons_self
    rw [List.append_cons] at sorted ⊢
    rw [List.foldl_cons, insert_of_above above]
    exact ih _ sorted

end TiltMenu.Sorted
