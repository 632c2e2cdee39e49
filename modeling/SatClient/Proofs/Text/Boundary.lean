import SatClient.Text.Basic

/-! Byte offsets that fall between two characters of a text. Such an offset cuts the text in two,
and no other one does. Where a text is put together from two, each character stands in one of them.
-/

namespace SatClient.Text

/-- The characters from a byte offset on, if the offset does not fall inside a character or beyond
the end.
-/
def dropBytes? : List Char → Nat → Option (List Char)
  | text, 0 => some text
  | [], _ + 1 => none
  | c :: rest, offset =>
      if c.utf8Size ≤ offset then dropBytes? rest (offset - c.utf8Size) else none

theorem dropBytes?_zero (text : List Char) : dropBytes? text 0 = some text := by
  cases text <;> rfl

theorem dropBytes?_cons (c : Char) (rest : List Char) (offset : Nat)
    : dropBytes? (c :: rest) (c.utf8Size + offset) = dropBytes? rest offset := by
  have positive := c.utf8Size_pos
  rw [dropBytes?, if_pos (Nat.le_add_right _ _), Nat.add_sub_cancel_left]
  omega

theorem dropBytes?_append (front back : List Char)
    : dropBytes? (front ++ back) (width front) = some back := by
  induction front with
  | nil => exact dropBytes?_zero back
  | cons c rest ih => rw [List.cons_append, width_cons, dropBytes?_cons, ih]

/-- The places at which a text can be cut, by induction along the text. -/
theorem dropBytes?_eq_some_iff {text back : List Char} {offset : Nat}
    : dropBytes? text offset = some back
      ↔ ∃ front, text = front ++ back ∧ width front = offset := by
  constructor
  · intro cut
    induction text generalizing offset with
    | nil =>
        cases offset with
        | zero =>
            cases cut
            exact ⟨[], rfl, rfl⟩
        | succ offset => cases cut
    | cons c rest ih =>
        cases offset with
        | zero =>
            cases cut
            exact ⟨[], rfl, rfl⟩
        | succ offset =>
            rw [dropBytes?] at cut
            · split at cut
              next fits =>
                obtain ⟨front, rfl, same⟩ := ih cut
                exact ⟨c :: front, rfl, by rw [width_cons]; omega⟩
              next => cases cut
            · exact Nat.succ_ne_zero offset
  · rintro ⟨front, rfl, rfl⟩
    exact dropBytes?_append front back

/-- A member of two lists in a row stands in one of them. -/
theorem append_eq_append_cons_iff {α : Type} {first second front back : List α} {c : α}
    : first ++ second = front ++ c :: back
      ↔ (∃ rest, first = front ++ c :: rest ∧ back = rest ++ second)
        ∨ ∃ middle, front = first ++ middle ∧ second = middle ++ c :: back := by
  constructor
  · intro cut
    rcases List.append_eq_append_iff.mp cut with found | ⟨rest, same, behind⟩
    · exact .inr found
    · cases rest with
      | nil => exact .inr ⟨[], by simp [same], behind.symm⟩
      | cons d rest =>
          cases behind
          exact .inl ⟨rest, same, rfl⟩
  · rintro (⟨rest, rfl, rfl⟩ | ⟨middle, rfl, rfl⟩) <;> simp

end SatClient.Text
