import SatClient.CommandLine.Invocation
import SatClient.Proofs.Formula.Acceptance

/-! Formulas as words of a command line. A word that does not start with a hyphen is the operand of
its command as it stands, and no formula starts with one.
-/

namespace SatClient

-----------------------------------------------------------------------------------------
-- How a formula starts
-----------------------------------------------------------------------------------------

/-- A formula starts with no binary operator, by induction on the derivation. -/
theorem Derivable.exists_first {tokens : List Token} (derivable : Derivable tokens)
    : ∃ first rest, tokens = first :: rest ∧ ¬ first.IsBinary := by
  induction derivable with
  | truth => exact ⟨_, _, rfl, by decide⟩
  | falsity => exact ⟨_, _, rfl, by decide⟩
  | atom name => exact ⟨_, _, rfl, by simp [Token.IsBinary]⟩
  | negation => exact ⟨_, _, rfl, by decide⟩
  | parens => exact ⟨_, _, rfl, by decide⟩
  | conjunction _ _ left | disjunction _ _ left | implication _ _ left | equivalence _ _ left =>
      obtain ⟨first, rest, rfl, notBinary⟩ := left
      exact ⟨first, _, rfl, notBinary⟩

/-- A hyphen can only start an arrow. -/
theorem Spells.exists_implication {text : List Char} {tokens : List Token}
    (spells : Spells ('-' :: text) tokens)
    : ∃ others, tokens = .implication :: others := by
  obtain ⟨placed, read, rfl⟩ := spells_iff.mp spells
  have items : Lexer.items ('-' :: text)
      = (Lexer.hyphen 0 text).item
        :: Lexer.itemsFrom (0 + Text.width (Lexer.hyphen 0 text).text)
            (Lexer.hyphen 0 text).rest := by
    rw [Lexer.items, Lexer.itemsFrom]
    rfl
  rw [Lexer.tokenize, items] at read
  unfold Lexer.hyphen at read
  split at read
  next rest =>
    rw [Lexer.Lexeme.token, Lexer.collect] at read
    cases others : Lexer.collect (Lexer.itemsFrom (0 + Text.width ['-', '>']) rest) with
    | error fault => rw [others] at read; cases read
    | ok tokens =>
        rw [others] at read
        cases read
        exact ⟨_, rfl⟩
  next => cases read

theorem head?_ne_hyphen_of_isWellFormed {text : String} (accepted : isWellFormed text = true)
    : text.toList.head? ≠ some '-' := by
  obtain ⟨tokens, spells, derivable, -⟩ := isWellFormed_iff_spells.mp accepted
  intro starts
  obtain ⟨others, isText⟩ := List.head?_eq_some_iff.mp starts
  rw [isText] at spells
  obtain ⟨arrow, rfl⟩ := spells.exists_implication
  obtain ⟨first, rest, same, notBinary⟩ := derivable.exists_first
  cases same
  exact notBinary (by decide)

-----------------------------------------------------------------------------------------
-- Words
-----------------------------------------------------------------------------------------

namespace CommandLine

theorem Word.ofString_eq_plain {word : String} (noHyphen : word.toList.head? ≠ some '-')
    : Word.ofString word = .plain := by
  unfold Word.ofString
  split
  next starts => simp [starts] at noHyphen
  next starts => simp [starts] at noHyphen
  next => rfl
  next starts => simp [starts] at noHyphen
  next => rfl

/-- The file with settings of a command that is given none. -/
def standardConfig : Files.Path := ⟨"config/default.yaml"⟩

section Operands

variable {text : String} (noHyphen : text.toList.head? ≠ some '-')
include noHyphen

theorem read_check : read ["check", text] = .ok (.check text) := by
  change readCheck [text] = _
  rw [readCheck, Command.read, Word.ofString_eq_plain noHyphen]
  rfl

theorem read_solve
    : read ["solve", text] = .ok (.solve text standardConfig .none false false false) := by
  change readSolve [text] = _
  rw [readSolve, Command.read, Word.ofString_eq_plain noHyphen]
  rfl

theorem read_solve_skipCheck
    : read ["solve", text, "--skip-check"]
      = .ok (.solve text standardConfig .none true false false) := by
  change readSolve [text, "--skip-check"] = _
  rw [readSolve, Command.read, Word.ofString_eq_plain noHyphen]
  rfl

end Operands

end CommandLine

end SatClient
