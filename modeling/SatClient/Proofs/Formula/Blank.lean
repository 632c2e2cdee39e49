import SatClient.Proofs.Formula.EarliestFault

/-! The two tests that a text goes through, whether it is blank and whether it passes the check. A
text without tokens is one that holds nothing but blanks, so that what is blank to a form with a
field for a formula is empty to the grammar, and nothing else is.
-/

namespace SatClient

theorem exists_checked_iff {text : String}
    : (∃ checked, checkText text = .ok checked) ↔ isWellFormed text = true := by
  rw [isWellFormed]
  cases checkText text with
  | error fault => exact ⟨nofun, nofun⟩
  | ok checked => exact ⟨fun _ => rfl, fun _ => ⟨checked, rfl⟩⟩

theorem exists_fault_iff {text : String}
    : (∃ fault, checkText text = .error fault) ↔ isWellFormed text = false := by
  rw [isWellFormed]
  cases checkText text with
  | error fault => exact ⟨fun _ => rfl, fun _ => ⟨fault, rfl⟩⟩
  | ok checked => exact ⟨nofun, nofun⟩

namespace Formula

theorem ofString?_of_blank {text : String} (blank : Text.isBlankString text = true)
    : ofString? text = none :=
  dif_neg (by simp [blank])

theorem ofString?_of_not_blank {text : String} (notBlank : Text.isBlankString text = false)
    : ofString? text = some ⟨text, notBlank⟩ :=
  dif_pos notBlank

theorem text_of_ofString? {text : String} {formula : Formula}
    (found : ofString? text = some formula)
    : formula.text = text := by
  cases blank : Text.isBlankString text with
  | true =>
      rw [ofString?_of_blank blank] at found
      cases found
  | false =>
      rw [ofString?_of_not_blank blank] at found
      cases found
      rfl

end Formula

theorem tokenize_of_allBlank {text : List Char} (blank : Text.allBlank text = true)
    : Lexer.tokenize text = .ok [] := by
  have nothing : Layout.Valid ⟨[], text⟩ := ⟨ValidPieces.nil, blank⟩
  exact nothing.tokenize

theorem allBlank_of_tokenize {text : List Char} (none : Lexer.tokenize text = .ok [])
    : Text.allBlank text = true := by
  obtain ⟨⟨pieces, ending⟩, valid, rfl, placed⟩ := exists_layout_of_tokenize none
  have tokens := congrArg (List.map PlacedToken.token) placed
  rw [Layout.placed, map_token_placedFrom] at tokens
  obtain rfl : pieces = [] := List.map_eq_nil_iff.mp tokens
  exact valid.ending

theorem isWellFormed_of_blank {text : String} (blank : Text.isBlankString text = true)
    : isWellFormed text = false := by
  rw [isWellFormed, checkText, tokenize_of_allBlank blank]
  rfl

theorem not_blank_of_isWellFormed {text : String} (accepted : isWellFormed text = true)
    : Text.isBlankString text = false := by
  rw [Bool.eq_false_iff]
  intro blank
  rw [isWellFormed_of_blank blank] at accepted
  cases accepted

/-- No place in a text is faulty for being empty. -/
theorem lexeme_item_ne_empty (offset : Nat) (c : Char) (rest : List Char)
    : (Lexer.lexeme offset c rest).item ≠ .error .empty := by
  unfold Lexer.lexeme Lexer.hyphen Lexer.angle Lexer.Lexeme.token
  repeat' split
  all_goals simp

/-- A text that cannot be read is not empty, by induction on its characters. -/
theorem collect_itemsFrom_ne_empty (offset : Nat) (text : List Char)
    : Lexer.collect (Lexer.itemsFrom offset text) ≠ .error .empty := by
  fun_induction Lexer.itemsFrom offset text with
  | case1 offset => simp [Lexer.collect]
  | case2 offset c rest blank ih => exact ih
  | case3 offset c rest notBlank found ih =>
      cases item : found.item with
      | error fault =>
          intro same
          cases same
          exact lexeme_item_ne_empty offset c rest item
      | ok token =>
          rw [Lexer.collect]
          cases others : Lexer.collect (Lexer.itemsFrom (offset + Text.width found.text) found.rest)
          with
          | error fault =>
              intro same
              cases same
              exact ih others
          | ok tokens =>
              intro same
              cases same

/-- The grammar calls a text empty exactly when it is blank. -/
theorem checkText_eq_empty_iff {text : String}
    : checkText text = .error .empty ↔ Text.isBlankString text = true := by
  constructor
  · intro failed
    cases read : Lexer.tokenize text.toList with
    | error fault =>
        rw [checkText, read] at failed
        cases failed
        exact absurd read (collect_itemsFrom_ne_empty 0 text.toList)
    | ok tokens =>
        cases tokens with
        | nil => exact allBlank_of_tokenize read
        | cons next rest =>
            -- A scan over tokens reports a token or the end, never that there was nothing.
            rw [checkText_of_tokenize read] at failed
            exact (earliestFault_of_checkTokens failed).elim
  · intro blank
    rw [checkText, tokenize_of_allBlank blank]
    rfl

end SatClient
