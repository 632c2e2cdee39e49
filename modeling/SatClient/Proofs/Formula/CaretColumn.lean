import SatClient.Proofs.Formula.FaultPlace
import SatClient.Proofs.Text.Splitting

/-! The column of the caret. It is counted from the start of the text, whatever lines the text has,
and only the first line is indented: so the caret stands below the fault in a text of one line, and
never in a text of several.
-/

namespace SatClient

open Text

-----------------------------------------------------------------------------------------
-- Blocks of lines
-----------------------------------------------------------------------------------------

/-- A block of lines ends with a caret, which stands in the column of the character behind `front`,
and this character stands in the line directly above.
-/
def CaretUnder (block front : List Char) : Prop :=
  ∃ earlier left right marks,
    block.splitOn '\n' = earlier ++ [left ++ right, marks ++ ['^']]
    ∧ '^' ∉ marks
    ∧ marks.length = left.length
    ∧ right ≠ []
    ∧ ['\n'].intercalate (earlier ++ [left]) = front

-----------------------------------------------------------------------------------------
-- The caret below a text
-----------------------------------------------------------------------------------------

variable {text : String} {front back : List Char}

/-- The lines of an indented text, and below them the caret behind as many blanks as there are
characters in front of its place, line breaks and indent included.
-/
theorem split_pointer (cut : text.toList = front ++ back)
    : (pointer text (some (width front))).toList.splitOn '\n'
      = (' ' :: ' ' :: text.toList).splitOn '\n'
        ++ [List.replicate (front.length + 2) ' ' ++ ['^']] := by
  have block : (pointer text (some (width front))).toList
      = (' ' :: ' ' :: text.toList)
        ++ '\n' :: (List.replicate (front.length + 2) ' ' ++ ['^']) := by
    rw [pointer_eq_of_cut cut]
    simp [List.replicate_succ]
  have noBreak : '\n' ∉ List.replicate (front.length + 2) ' ' ++ ['^'] := by simp
  rw [block, List.splitOn_append_cons_self, List.splitOn_eq_singleton noBreak]

/-- The caret stands below its place exactly where the text is a single line. -/
theorem caretUnder_pointer_iff_of_cut (cut : text.toList = front ++ back) (some : back ≠ [])
    : CaretUnder (pointer text (.some (width front))).toList (' ' :: ' ' :: front)
      ↔ '\n' ∉ text.toList := by
  have lines := split_pointer cut
  constructor
  · rintro ⟨earlier, left, right, marks, above, _, column, _, place⟩
    rw [lines, List.append_cons earlier] at above
    obtain ⟨textLines, last⟩ := List.append_inj' above rfl
    obtain ⟨rfl, _⟩ := List.append_inj' (List.singleton_inj.mp last) rfl
    -- The caret is as far to the right as its place is in the whole text, so nothing precedes the
    -- line of that place.
    have first : earlier = [] := by
      by_contra several
      have longer := length_lt_length_intercalate '\n' several left
      rw [place, ← column] at longer
      simp at longer
    rw [first, List.nil_append] at textLines
    simpa using (splitOn_eq_singleton_iff.mp textLines).2
  · intro single
    have whole : (' ' :: ' ' :: text.toList).splitOn '\n' = [' ' :: ' ' :: text.toList] :=
      List.splitOn_eq_singleton (by simpa using single)
    refine ⟨[], ' ' :: ' ' :: front, back, List.replicate (front.length + 2) ' ', ?_, by simp,
      by simp, some, by simp⟩
    rw [lines, whole, cut]
    rfl

/-- For every fault with a place, the caret is as far to the right as the place in the whole text.
It stands below what is reported exactly where the text is a single line.
-/
theorem caretUnder_pointer_iff {fault : SyntaxError} {offset : Nat}
    (failed : checkText text = .error fault) (placed : fault.offset? = some offset)
    : ∃ front back,
        text.toList = front ++ back
        ∧ width front = offset
        ∧ back ≠ []
        ∧ fault.BeginsAt back
        ∧ ((pointer text (some offset)).toList.splitOn '\n').getLast?
          = some (List.replicate (front.length + 2) ' ' ++ ['^'])
        ∧ (CaretUnder (pointer text (some offset)).toList (' ' :: ' ' :: front)
          ↔ '\n' ∉ text.toList) := by
  have points : PointsAtFault text fault := by
    rcases checkText_eq_error_iff.mp failed with unreadable | ⟨tokens, read, refused⟩
    · exact pointsAtFault_of_tokenize unreadable
    · exact pointsAtFault_of_checkTokens read refused
  obtain ⟨front, back, cut, place, some, begins, _⟩ := points.placed placed
  subst place
  refine ⟨front, back, cut, rfl, some, begins, ?_, caretUnder_pointer_iff_of_cut cut some⟩
  rw [split_pointer cut, List.getLast?_concat]

/-- A capital behind a wide blank has the caret below it. -/
theorem caretUnder_pointer_iff_wide
    : checkText "\u3000Ab" = .error (.uppercaseLetter 'A' 3)
      ∧ CaretUnder (pointer "\u3000Ab" (some 3)).toList [' ', ' ', '\u3000'] := by
  have characters : "\u3000Ab".toList = ['\u3000'] ++ ['A', 'b'] := by decide
  have failed : checkText "\u3000Ab" = .error (.uppercaseLetter 'A' 3) := by
    have first : Lexer.itemsFrom 0 (['\u3000'] ++ ['A', 'b'])
        = .error (.uppercaseLetter 'A' 3) :: Lexer.itemsFrom 4 ['b'] := by
      rw [List.singleton_append, Lexer.itemsFrom, if_pos (by decide), Lexer.itemsFrom,
        if_neg (by decide)]
      rfl
    rw [checkText, characters, Lexer.tokenize, Lexer.items, first]
    rfl
  obtain ⟨front, back, cut, place, _, _, _, under⟩ := caretUnder_pointer_iff failed rfl
  rw [characters] at cut
  have sameBack : back = ['A', 'b'] := by
    have known := dropBytes?_append front back
    rw [← cut, place] at known
    exact Option.some.inj (known.symm.trans (dropBytes?_append ['\u3000'] ['A', 'b']))
  rw [sameBack] at cut
  rw [← List.append_cancel_right cut] at under
  exact ⟨failed, under.mpr (by decide)⟩

/-- Below two lines the caret stands beside the variable that it is meant for. -/
theorem not_caretUnder_pointer_lines
    : checkText "a\nb" = .error (.unexpectedToken (.atom "b") 2 .operatorOrEnd)
      ∧ pointer "a\nb" (some 2) = "  a\nb\n    ^"
      ∧ ¬ CaretUnder (pointer "a\nb" (some 2)).toList [' ', ' ', 'a', '\n'] := by
  have failed : checkText "a\nb" = .error (.unexpectedToken (.atom "b") 2 .operatorOrEnd) := by
    have valid : Layout.Valid ⟨[⟨[], .atom "a"⟩, ⟨['\n'], .atom "b"⟩], []⟩ := by decide
    have read : Lexer.tokenize "a\nb".toList = .ok [⟨.atom "a", 0⟩, ⟨.atom "b", 2⟩] :=
      valid.tokenize
    rw [checkText_of_tokenize read, checkTokens_cons]
    rfl
  have cut : "a\nb".toList = ['a', '\n'] ++ ['b'] := by decide
  have under := caretUnder_pointer_iff_of_cut cut (List.cons_ne_nil 'b' [])
  exact ⟨failed, by decide, fun aligned => under.mp aligned (by decide)⟩

end SatClient
