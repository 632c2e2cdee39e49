import SatClient.Proofs.Formula.Neighbours
import SatClient.Proofs.Formula.OnePass
import SatClient.Proofs.Formula.Spans

/-! Formulas whose tokens are spaced differently. Taking blanks out can make one token of two, but
never in a formula, since no tokens meet there that could be read as one. So whatever blanks stand
before, between and after the tokens of a formula, it stays the same formula.
-/

namespace SatClient

open Text

-----------------------------------------------------------------------------------------
-- Checked texts
-----------------------------------------------------------------------------------------

/-- What passes the check are formulas, with their variables. -/
theorem checkTokens_eq_ok_iff {placed : List PlacedToken} {checked : Checked}
    : checkTokens placed = .ok checked
      ↔ Accepted (placed.map PlacedToken.token)
        ∧ checked.atoms = distinct (atomsOf (placed.map PlacedToken.token)) := by
  have names {found : Checked} (passed : checkTokens placed = .ok found)
      : found.atoms = distinct (atomsOf (placed.map PlacedToken.token)) := by
    cases placed with
    | nil => cases passed
    | cons next rest => exact Scan.atoms_of_check (checkTokens_cons next rest ▸ passed)
  rw [Accepted, ← checkTokens_isOk_iff_derivable]
  constructor
  · intro passed
    exact ⟨by rw [passed]; rfl, names passed⟩
  · rintro ⟨accepted, atoms⟩
    cases found : checkTokens placed with
    | error fault => rw [found] at accepted; cases accepted
    | ok other =>
        cases checked
        cases other
        cases names found
        cases atoms
        rfl

theorem checkText_eq_ok_iff_spells {text : String} {checked : Checked}
    : checkText text = .ok checked
      ↔ ∃ tokens,
          Spells text.toList tokens
          ∧ Accepted tokens
          ∧ checked.atoms = distinct (atomsOf tokens) := by
  constructor
  · intro passed
    obtain ⟨placed, read, checks⟩ := exists_of_bind_eq_ok passed
    obtain ⟨accepted, atoms⟩ := checkTokens_eq_ok_iff.mp checks
    exact ⟨_, spells_iff.mpr ⟨placed, read, rfl⟩, accepted, atoms⟩
  · rintro ⟨tokens, spells, accepted, atoms⟩
    obtain ⟨placed, read, rfl⟩ := spells_iff.mp spells
    rw [checkText_of_tokenize read]
    exact checkTokens_eq_ok_iff.mpr ⟨accepted, atoms⟩

/-- Two texts are the same formula: both pass the check with the same variables, and the same tokens
are read from them, if at other places.
-/
structure SameFormula (text other : String) : Prop where
  checked : ∃ checked, checkText text = .ok checked ∧ checkText other = .ok checked
  tokens
    : ∃ placed shifted,
        Lexer.tokenize text.toList = .ok placed
        ∧ Lexer.tokenize other.toList = .ok shifted
        ∧ placed.map PlacedToken.token = shifted.map PlacedToken.token

/-- Texts that spell one formula are the same. -/
theorem Accepted.sameFormula {tokens : List Token} {text other : String}
    (accepted : Accepted tokens) (spells : Spells text.toList tokens)
    (also : Spells other.toList tokens)
    : SameFormula text other where
  checked :=
    ⟨⟨distinct (atomsOf tokens)⟩,
      checkText_eq_ok_iff_spells.mpr ⟨tokens, spells, accepted, rfl⟩,
      checkText_eq_ok_iff_spells.mpr ⟨tokens, also, accepted, rfl⟩⟩
  tokens := by
    obtain ⟨placed, read, rfl⟩ := spells_iff.mp spells
    obtain ⟨shifted, readToo, same⟩ := spells_iff.mp also
    exact ⟨placed, shifted, read, readToo, same.symm⟩

-----------------------------------------------------------------------------------------
-- Other gaps
-----------------------------------------------------------------------------------------

namespace Layout

def tokens (layout : Layout) : List Token := layout.pieces.map Piece.token

/-- Nothing but blanks stands before, between and after the tokens of a layout. -/
structure IsSpaced (layout : Layout) : Prop where
  gaps : ∀ piece ∈ layout.pieces, allBlank piece.gap = true
  ending : allBlank layout.ending = true

/-- The tokens of a layout without any blanks. -/
def squeezed (layout : Layout) : Layout :=
  ⟨layout.pieces.map fun piece => ⟨[], piece.token⟩, []⟩

theorem tokens_squeezed (layout : Layout) : layout.squeezed.tokens = layout.tokens := by
  simp [tokens, squeezed, Function.comp_def]

theorem isSpaced_squeezed (layout : Layout) : layout.squeezed.IsSpaced :=
  ⟨by simp [squeezed, allBlank], rfl⟩

variable {layout other : Layout}

/-- The blanks of a text are those between its tokens. -/
theorem Valid.text_squeezed (valid : layout.Valid)
    : layout.squeezed.text = layout.text.filter (!isBlank ·) := by
  have nothing {gap : List Char} (blank : allBlank gap = true)
      : gap.filter (!isBlank ·) = [] := by
    rw [List.filter_eq_nil_iff]
    intro c member
    simp [List.all_eq_true.mp blank c member]
  have kept {piece : Piece} (member : piece ∈ layout.pieces)
      : piece.text.filter (!isBlank ·) = piece.token.text.toList := by
    rw [Piece.text, List.filter_append, nothing (valid.pieces.blank piece member),
      List.nil_append, List.filter_eq_self]
    intro c inside
    simp [(valid.pieces.named piece member).solid c inside]
  rw [text, text, List.filter_append, nothing valid.ending, List.filter_flatMap, squeezed,
    List.flatMap_map]
  simp only [List.append_nil]
  exact List.flatMap_congr fun piece member => (kept member).symm

/-- The tokens of a formula can be spaced in any way. -/
theorem Valid.of_isSpaced (valid : layout.Valid) (accepted : Accepted layout.tokens)
    (same : other.tokens = layout.tokens) (spaced : other.IsSpaced)
    : other.Valid := by
  have named : ∀ token ∈ layout.tokens, token.WellNamed :=
    List.forall_mem_map.mpr valid.pieces.named
  have fitting : layout.tokens.IsChain Token.FitsBefore := accepted.isChain
  rw [← same] at named fitting
  exact ⟨⟨spaced.gaps, List.forall_mem_map.mp named, separated_of_isChain fitting⟩, spaced.ending⟩

end Layout

/-- Blanks make no difference to formulas. Without them a formula is the same, and so it is with any
blanks before, between and after its tokens in place of those that it has.
-/
theorem sameFormula_of_isSpaced {text : String} (accepted : isWellFormed text = true)
    : SameFormula text (String.ofList (text.toList.filter (!isBlank ·)))
      ∧ ∃ layout : Layout,
          layout.Valid
          ∧ layout.text = text.toList
          ∧ ∀ other : Layout,
              other.tokens = layout.tokens
              → other.IsSpaced
              → SameFormula text (String.ofList other.text) := by
  obtain ⟨tokens, spells, formula⟩ := isWellFormed_iff_spells.mp accepted
  obtain ⟨layout, valid, written, rfl⟩ := spells
  have respaced {other : Layout} (same : other.tokens = layout.tokens) (spaced : other.IsSpaced)
      : SameFormula text (String.ofList other.text) := by
    refine formula.sameFormula ⟨layout, valid, written, rfl⟩ ⟨other, ?_, ?_, same⟩
    · exact valid.of_isSpaced formula same spaced
    · exact String.toList_ofList.symm
  refine ⟨?_, layout, valid, written, fun _ => respaced⟩
  rw [← written, ← valid.text_squeezed]
  exact respaced layout.tokens_squeezed layout.isSpaced_squeezed

/-- A wide blank is taken out with the others, or other blanks stand in other places. -/
theorem sameFormula_of_isSpaced_wide
    : isWellFormed "a ->\u3000~ T" = true
      ∧ SameFormula "a ->\u3000~ T" "a->~T"
      ∧ SameFormula "a ->\u3000~ T" "\ta->~  T\n" := by
  have valid : Layout.Valid
      ⟨[⟨[], .atom "a"⟩, ⟨[' '], .implication⟩, ⟨['\u3000'], .negation⟩, ⟨[' '], .truth⟩], []⟩ := by
    decide
  have accepted : isWellFormed "a ->\u3000~ T" = true := isWellFormed_of_scan valid.tokenize rfl
  have solid : String.ofList ("a ->\u3000~ T".toList.filter (!isBlank ·)) = "a->~T" := by decide
  obtain ⟨squeezed, layout, also, written, respaced⟩ := sameFormula_of_isSpaced accepted
  rw [solid] at squeezed
  cases also.unique valid written
  let other : Layout :=
    ⟨[⟨['\t'], .atom "a"⟩, ⟨[], .implication⟩, ⟨[], .negation⟩, ⟨[' ', ' '], .truth⟩], ['\n']⟩
  have spaced : other.IsSpaced := ⟨by decide, by decide⟩
  have spelled : String.ofList other.text = "\ta->~  T\n" := by decide
  exact ⟨accepted, squeezed, spelled ▸ respaced other rfl spaced⟩

/-- In a text that is no formula, two tokens can become one without the blank between them. -/
example
    : Lexer.items "a b".toList = [.ok ⟨.atom "a", 0⟩, .ok ⟨.atom "b", 2⟩]
      ∧ Lexer.items "ab".toList = [.ok ⟨.atom "ab", 0⟩] := by
  cbv

end SatClient
