import SatClient.Proofs.Formula.Derivation
import SatClient.Proofs.Formula.Layout
import SatClient.Proofs.Formula.Matching

/-! Faults are reported as early as possible. The tokens before the one that is reported can
still become a formula, those up to it cannot; where the tokens end too early, all of them can.
-/

namespace SatClient

/-- Some continuation of the tokens passes the check. -/
def Viable (front : List PlacedToken) : Prop :=
  ∃ more, (checkTokens (front ++ more)).isOk = true

def Token.AwaitsOperand (token : Token) : Prop :=
  token = .negation ∨ token = .openParen ∨ token.IsBinary

/-- The last token is one after which an operand has to follow. -/
def EndsAwaiting (tokens : List PlacedToken) : Prop :=
  ∃ last ∈ tokens.getLast?, last.token.AwaitsOperand

/-- The token after the front is the first one that no formula can have there. -/
def FirstUnviable (front : List PlacedToken) (next : PlacedToken) : Prop :=
  Viable front ∧ ¬ Viable (front ++ [next])

/-- What a fault says about the tokens that were checked. -/
def EarliestFault (tokens : List PlacedToken) : SyntaxError → Prop
  | .unexpectedToken found offset _ =>
      ∃ front rest,
        tokens = front ++ ⟨found, offset⟩ :: rest
        ∧ FirstUnviable front ⟨found, offset⟩
  | .unexpectedEnd => Viable tokens ∧ EndsAwaiting tokens
  | .unclosedParen offset =>
      Viable tokens ∧ ¬ EndsAwaiting tokens ∧ LastUnclosed tokens offset
  | .tooDeep =>
      ∃ front offset rest,
        tokens = front ++ ⟨.openParen, offset⟩ :: rest
        ∧ NestsWithin maxDepth (front.map PlacedToken.token)
        ∧ (front.map PlacedToken.token).count .openParen
          = (front.map PlacedToken.token).count .closeParen + maxDepth
        ∧ FirstUnviable front ⟨.openParen, offset⟩
  | _ => False

-----------------------------------------------------------------------------------------
-- Fronts of formulas
-----------------------------------------------------------------------------------------

/-- Tokens can become a formula exactly when the scan takes them. -/
theorem viable_iff_run {front : List PlacedToken}
    : Viable front ↔ ∃ last, Scan.Run .initial front last := by
  constructor
  · rintro ⟨more, passed⟩
    obtain ⟨middle, run, _⟩ := (checkTokens_isOk_iff.mp passed).split
    exact ⟨middle, run⟩
  · rintro ⟨last, run⟩
    obtain ⟨more, others⟩ := Scan.exists_run_to_end last
    exact ⟨more, checkTokens_isOk_iff.mpr (run.append others)⟩

/-- A token that the scan refuses is the first that no formula can have there. -/
theorem Scan.Run.firstUnviable {front middle next fault} (run : Run .initial front middle)
    (refused : step middle next = .error fault)
    : FirstUnviable front next := by
  refine ⟨viable_iff_run.mpr ⟨middle, run⟩, ?_⟩
  intro viable
  obtain ⟨last, longer⟩ := viable_iff_run.mp viable
  obtain ⟨other, again, final⟩ := longer.split
  cases run.unique again
  cases final with
  | cons first _ =>
      rw [first.step_eq] at refused
      cases refused

/-- After a step an operand is due exactly when the token awaits one. -/
theorem Scan.Advance.mode_iff {state next after} (advance : Advance state next after)
    : after.mode = .operand ↔ next.token.AwaitsOperand := by
  cases advance with
  | negate => simp [Token.AwaitsOperand]
  | operand isOperand => cases isOperand <;> simp [Token.AwaitsOperand, Token.IsBinary]
  | enter => simp [Token.AwaitsOperand]
  | connect isBinary => simp [Token.AwaitsOperand, isBinary]
  | leave => simp [Token.AwaitsOperand, Token.IsBinary]

/-- After a run over some tokens an operand is due exactly when the last one awaits one, by
induction on the run.
-/
theorem Scan.Run.mode_iff {state tokens last} (run : Run state tokens last)
    (nonempty : tokens ≠ [])
    : last.mode = .operand ↔ EndsAwaiting tokens := by
  induction run with
  | nil => exact absurd rfl nonempty
  | @cons state next middle rest last first others ih =>
      cases others with
      | nil =>
          rw [first.mode_iff]
          simp [EndsAwaiting]
      | cons second more =>
          rw [ih (by simp)]
          simp only [EndsAwaiting, List.getLast?_cons_cons]

-----------------------------------------------------------------------------------------
-- Faults
-----------------------------------------------------------------------------------------

/-- A scan that fails does so at a token or at the end. -/
theorem Scan.check_eq_error {tokens : List PlacedToken} {fault : SyntaxError}
    (failed : check tokens = .error fault)
    : tokens.foldlM step .initial = .error fault
      ∨ ∃ last, Run .initial tokens last ∧ finish last = .error fault := by
  change (tokens.foldlM step .initial >>= _) = _ at failed
  cases scanned : tokens.foldlM step .initial with
  | error other =>
      rw [scanned] at failed
      cases failed
      exact .inl rfl
  | ok last =>
      right
      refine ⟨last, foldlM_eq_ok_iff.mp scanned, ?_⟩
      simp only [scanned, bind, Except.bind] at failed
      cases ended : finish last with
      | error other =>
          rw [ended] at failed
          cases failed
          rfl
      | ok done =>
          rw [ended] at failed
          cases failed

/-- A fault at a token is the earliest one, by cases on the refusal. -/
theorem Scan.earliestFault_of_refused {tokens : List PlacedToken} {fault : SyntaxError}
    (failed : tokens.foldlM step .initial = .error fault)
    : EarliestFault tokens fault := by
  obtain ⟨front, next, rest, middle, rfl, run, refusal, refused⟩ := foldlM_eq_error failed
  have first := run.firstUnviable refused
  cases refusal with
  | @tooDeep stack offset full =>
      have balance := run.balance
      have bound : stack.length ≤ maxDepth := run.length_stack_le (Nat.zero_le _)
      simp only [State.initial, List.length_nil] at balance
      exact ⟨front, offset, rest, rfl, run.nestsWithin, by omega, first⟩
  | noOperand => exact ⟨front, rest, rfl, first⟩
  | noOperator => exact ⟨front, rest, rfl, first⟩

/-- A fault at the end is the earliest one, by cases on the state that was reached. -/
theorem Scan.Run.earliestFault {tokens last fault} (run : Run .initial tokens last)
    (nonempty : tokens ≠ []) (failed : finish last = .error fault)
    : EarliestFault tokens fault := by
  have viable := viable_iff_run.mpr ⟨last, run⟩
  have awaiting := run.mode_iff nonempty
  obtain ⟨mode, stack⟩ := last
  cases mode with
  | operand =>
      cases failed
      exact ⟨viable, awaiting.mp rfl⟩
  | operator =>
      cases stack with
      | nil => cases failed
      | cons opened outer =>
          cases failed
          have nothing : Leaves [] State.initial.stack := .flat .nil
          have leaves : Leaves tokens (opened :: outer) := run.leaves nothing
          refine ⟨viable, fun ends => ?_, leaves.lastUnclosed⟩
          cases awaiting.mpr ends

/-- The fault of tokens is the earliest one in them. -/
theorem earliestFault_of_checkTokens {next : PlacedToken} {rest : List PlacedToken}
    {fault : SyntaxError} (failed : checkTokens (next :: rest) = .error fault)
    : EarliestFault (next :: rest) fault := by
  rw [checkTokens_cons] at failed
  rcases Scan.check_eq_error failed with refused | ⟨last, run, ended⟩
  · exact Scan.earliestFault_of_refused refused
  · exact run.earliestFault (by simp) ended

/-- The fault of a text that can be read is the earliest one. What is reported is the first
token that no formula can have there, or that the text ends too early: with an operand due, or
with the parenthesis named that was opened last of those still open.
-/
theorem checkText_earliest {text : String} {tokens : List PlacedToken} {fault : SyntaxError}
    (read : Lexer.tokenize text.toList = .ok tokens) (nonempty : tokens ≠ [])
    (failed : checkText text = .error fault)
    : EarliestFault tokens fault := by
  rw [checkText_of_tokenize read] at failed
  cases tokens with
  | nil => exact absurd rfl nonempty
  | cons next rest => exact earliestFault_of_checkTokens failed

/-- Of two parentheses that stay open the inner one is named. -/
theorem checkText_earliest_unclosed
    : Lexer.tokenize "(a & (b".toList
        = .ok [⟨.openParen, 0⟩, ⟨.atom "a", 1⟩, ⟨.conjunction, 3⟩, ⟨.openParen, 5⟩, ⟨.atom "b", 6⟩]
      ∧ checkText "(a & (b" = .error (.unclosedParen 5)
      ∧ EarliestFault
          [⟨.openParen, 0⟩, ⟨.atom "a", 1⟩, ⟨.conjunction, 3⟩, ⟨.openParen, 5⟩, ⟨.atom "b", 6⟩]
          (.unclosedParen 5) := by
  have valid : Layout.Valid
      ⟨[⟨[], .openParen⟩, ⟨[], .atom "a"⟩, ⟨[' '], .conjunction⟩, ⟨[' '], .openParen⟩,
        ⟨[], .atom "b"⟩], []⟩ := by
    refine ⟨⟨by decide, ?_, by simp [Separated, Token.IsAtom]⟩, rfl⟩
    simp only [List.forall_mem_cons]
    exact ⟨trivial, ⟨'a', [], rfl, rfl, rfl⟩, trivial, trivial, ⟨'b', [], rfl, rfl, rfl⟩, by simp⟩
  have read : Lexer.tokenize "(a & (b".toList
      = .ok [⟨.openParen, 0⟩, ⟨.atom "a", 1⟩, ⟨.conjunction, 3⟩, ⟨.openParen, 5⟩,
          ⟨.atom "b", 6⟩] := valid.tokenize
  have failed : checkText "(a & (b" = .error (.unclosedParen 5) := by
    rw [checkText_of_tokenize read, checkTokens_cons]
    rfl
  exact ⟨read, failed, checkText_earliest read (by simp) failed⟩

end SatClient
