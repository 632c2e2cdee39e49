import SatClient.Proofs.Formula.Descent

/-! The scan accepts what the ambiguous grammar derives within the bound on nesting. A run to
the end is read backwards: what it takes from a state completes the operand that is due, or
extends the one just read, and then leaves the open parentheses one by one. A derivation is
scanned under any open parentheses alike, unless it nests too deep for the room that is left.
-/

namespace SatClient

-----------------------------------------------------------------------------------------
-- From runs to derivations
-----------------------------------------------------------------------------------------

/-- Tokens that turn every formula before them into a longer one. -/
def Extends (tail : List Token) : Prop :=
  ∀ {left}, Derivable left → Derivable (left ++ tail)

theorem Extends.nil : Extends [] := by
  intro left derivable
  simpa using derivable

theorem Extends.binary {token : Token} {right : List Token} (isBinary : token.IsBinary)
    (derivable : Derivable right)
    : Extends (token :: right) := by
  intro left before
  rcases isBinary with rfl | rfl | rfl | rfl
  · exact .conjunction before derivable
  · exact .disjunction before derivable
  · exact .implication before derivable
  · exact .equivalence before derivable

/-- What can follow a formula under a number of open parentheses: each is closed, and the
formula that it ends may be extended before the next one.
-/
inductive Closing : Nat → List Token → Prop
  | done : Closing 0 []
  | leave {depth tail rest} (extend : Extends tail) (others : Closing depth rest)
    : Closing (depth + 1) (.closeParen :: tail ++ rest)

def Completes (tokens : List Token) : Scan.State → Prop
  | ⟨.operand, stack⟩ =>
      ∃ body rest, tokens = body ++ rest ∧ Derivable body ∧ Closing stack.length rest
  | ⟨.operator, stack⟩ =>
      ∃ tail rest, tokens = tail ++ rest ∧ Extends tail ∧ Closing stack.length rest

theorem Token.IsOperand.derivable {token : Token} (isOperand : token.IsOperand)
    : Derivable [token] := by
  cases isOperand with
  | truth => exact .truth
  | falsity => exact .falsity
  | atom name => exact .atom name

/-- A step backwards keeps what completes a formula, by cases on the step. -/
theorem Scan.Advance.completes {state next after} {tokens : List Token}
    (advance : Advance state next after) (completes : Completes tokens after)
    : Completes (next.token :: tokens) state := by
  cases advance with
  | negate =>
      obtain ⟨body, rest, rfl, derivable, closing⟩ := completes
      exact ⟨.negation :: body, rest, rfl, .negation derivable, closing⟩
  | @operand stack token offset isOperand =>
      obtain ⟨tail, rest, rfl, extend, closing⟩ := completes
      exact ⟨token :: tail, rest, rfl, extend isOperand.derivable, closing⟩
  | enter =>
      obtain ⟨body, rest, rfl, derivable, closing⟩ := completes
      cases closing with
      | @leave depth tail rest extend others =>
          exact ⟨(.openParen :: body ++ [.closeParen]) ++ tail, rest, by simp,
            extend (.parens derivable), others⟩
  | @connect stack token offset isBinary =>
      obtain ⟨body, rest, rfl, derivable, closing⟩ := completes
      exact ⟨token :: body, rest, rfl, Extends.binary isBinary derivable, closing⟩
  | leave =>
      obtain ⟨tail, rest, rfl, extend, closing⟩ := completes
      exact ⟨[], .closeParen :: tail ++ rest, rfl, Extends.nil, .leave extend closing⟩

/-- What a run takes up to the end of a formula completes one, by induction on the run. -/
theorem Scan.Run.completes {state tokens last} (run : Run state tokens last)
    (ended : last = ⟨.operator, []⟩)
    : Completes (tokens.map PlacedToken.token) state := by
  induction run with
  | nil =>
      subst ended
      exact ⟨[], [], rfl, Extends.nil, .done⟩
  | cons first _ ih => exact first.completes (ih ended)

theorem Scan.Run.derivable {tokens} (run : Run .initial tokens ⟨.operator, []⟩)
    : Derivable (tokens.map PlacedToken.token) := by
  obtain ⟨body, rest, same, derivable, closing⟩ := run.completes rfl
  cases closing
  rw [same, List.append_nil]
  exact derivable

-----------------------------------------------------------------------------------------
-- From derivations to runs
-----------------------------------------------------------------------------------------

/-- Tokens that are scanned as one operand under the open parentheses of `stack`, unless they
nest too deep.
-/
def Scan.Operand (stack : List Nat) (tokens : List PlacedToken) : Prop :=
  Run ⟨.operand, stack⟩ tokens ⟨.operator, stack⟩
  ∨ tokens.foldlM step ⟨.operand, stack⟩ = .error .tooDeep

open Scan in
theorem Scan.Run.foldlM_append {state front middle} (run : Run state front middle)
    (back : List PlacedToken)
    : (front ++ back).foldlM step state = back.foldlM step middle := by
  rw [List.foldlM_append, foldlM_eq_ok_iff.mpr run]
  rfl

/-- A step in front of an operand gives an operand if the step waits for one. -/
theorem Scan.Operand.cons {stack : List Nat} {next : PlacedToken} {rest : List PlacedToken}
    (advance : Advance ⟨.operand, stack⟩ next ⟨.operand, stack⟩) (operand : Operand stack rest)
    : Operand stack (next :: rest) := by
  rcases operand with run | deep
  · exact .inl (.cons advance run)
  · right
    rw [List.foldlM_cons, advance.step_eq]
    exact deep

/-- Two operands joined by a binary operator are scanned as one. -/
theorem Scan.Operand.join {stack : List Nat} {next : PlacedToken}
    {left right : List PlacedToken} (isBinary : next.token.IsBinary)
    (first : Operand stack left) (second : Operand stack right)
    : Operand stack (left ++ next :: right) := by
  have connect : Advance ⟨.operator, stack⟩ next ⟨.operand, stack⟩ := .connect isBinary
  rcases first with run | deep
  · rcases second with others | deep
    · exact .inl (run.append (.cons connect others))
    · right
      rw [run.foldlM_append, List.foldlM_cons, connect.step_eq]
      exact deep
  · right
    rw [List.foldlM_append, deep]
    rfl

/-- An operand between parentheses is an operand, if it is one under the parenthesis that is
opened.
-/
theorem Scan.Operand.parens {stack : List Nat} {opened closed : Nat} {body : List PlacedToken}
    (inner : Operand (opened :: stack) body)
    : Operand stack (⟨.openParen, opened⟩ :: body ++ [⟨.closeParen, closed⟩]) := by
  by_cases room : stack.length < maxDepth
  · rcases inner with run | deep
    · exact .inl (.cons (.enter room) (run.append (.cons .leave .nil)))
    · right
      rw [List.cons_append, List.foldlM_cons, (Advance.enter room).step_eq]
      change (body ++ _).foldlM step _ = _
      rw [List.foldlM_append, deep]
      rfl
  · right
    simp only [List.cons_append, List.foldlM_cons, step, operandStep, if_neg room]
    rfl

/-- Every derivation is scanned as one operand under any open parentheses, by induction on
the derivation.
-/
theorem Derivable.operand {body : List Token} (derivable : Derivable body)
    {tokens : List PlacedToken} (same : tokens.map PlacedToken.token = body) (stack : List Nat)
    : Scan.Operand stack tokens := by
  induction derivable generalizing tokens stack with
  | truth =>
      obtain ⟨next, rest, rfl, isTruth, nothing⟩ := List.map_eq_cons_iff.mp same
      cases List.map_eq_nil_iff.mp nothing
      exact .inl (.cons (.operand (isTruth ▸ .truth)) .nil)
  | falsity =>
      obtain ⟨next, rest, rfl, isFalsity, nothing⟩ := List.map_eq_cons_iff.mp same
      cases List.map_eq_nil_iff.mp nothing
      exact .inl (.cons (.operand (isFalsity ▸ .falsity)) .nil)
  | atom name =>
      obtain ⟨next, rest, rfl, isAtom, nothing⟩ := List.map_eq_cons_iff.mp same
      cases List.map_eq_nil_iff.mp nothing
      exact .inl (.cons (.operand (isAtom ▸ .atom name)) .nil)
  | negation _ ih =>
      obtain ⟨⟨token, offset⟩, rest, rfl, isNegation, others⟩ := List.map_eq_cons_iff.mp same
      cases isNegation
      exact (ih others stack).cons .negate
  | conjunction _ _ before after | disjunction _ _ before after
  | implication _ _ before after | equivalence _ _ before after =>
      obtain ⟨left, others, rfl, isLeft, same⟩ := List.map_eq_append_iff.mp same
      obtain ⟨next, right, rfl, isOperator, isRight⟩ := List.map_eq_cons_iff.mp same
      exact (before isLeft stack).join (by simp [isOperator, Token.IsBinary])
        (after isRight stack)
  | parens _ ih =>
      obtain ⟨front, others, rfl, same, isClose⟩ := List.map_eq_append_iff.mp same
      obtain ⟨⟨token, opened⟩, body, rfl, isOpen, isBody⟩ := List.map_eq_cons_iff.mp same
      obtain ⟨⟨token, closed⟩, rest, rfl, isClose, nothing⟩ := List.map_eq_cons_iff.mp isClose
      cases isOpen
      cases isClose
      cases List.map_eq_nil_iff.mp nothing
      exact (ih isBody (opened :: stack)).parens

-----------------------------------------------------------------------------------------
-- What the scan accepts
-----------------------------------------------------------------------------------------

/-- A scan that finds tokens too deep has counted too many open parentheses. -/
theorem Scan.not_nestsWithin_of_tooDeep {tokens : List PlacedToken}
    (deep : tokens.foldlM step .initial = .error .tooDeep)
    : ¬ NestsWithin maxDepth (tokens.map PlacedToken.token) := by
  obtain ⟨front, next, rest, middle, rfl, run, refusal, _⟩ := foldlM_eq_error deep
  cases refusal with
  | tooDeep full => exact run.not_nestsWithin rest full

/-- The scan comes to the end of a formula exactly on what is derivable and nests within the
bound.
-/
theorem Scan.run_to_end_iff {tokens : List PlacedToken}
    : Run .initial tokens ⟨.operator, []⟩
      ↔ Derivable (tokens.map PlacedToken.token)
        ∧ NestsWithin maxDepth (tokens.map PlacedToken.token) := by
  constructor
  · intro run
    exact ⟨run.derivable, run.nestsWithin⟩
  · rintro ⟨derivable, nests⟩
    rcases derivable.operand rfl [] with run | deep
    · exact run
    · exact absurd nests (not_nestsWithin_of_tooDeep deep)

/-- A scan ends well exactly at the end of a formula. -/
theorem Scan.finish_eq_ok_iff {state : State}
    : finish state = .ok () ↔ state = ⟨.operator, []⟩ := by
  obtain ⟨mode, stack⟩ := state
  cases mode <;> cases stack <;> simp [finish]

/-- Tokens pass the check exactly when the scan comes to the end of a formula. -/
theorem checkTokens_isOk_iff {tokens : List PlacedToken}
    : (checkTokens tokens).isOk = true ↔ Scan.Run .initial tokens ⟨.operator, []⟩ := by
  cases tokens with
  | nil =>
      constructor
      · intro passed
        cases passed
      · intro run
        cases run
  | cons next rest =>
      rw [checkTokens_cons, Scan.check, ← Scan.foldlM_eq_ok_iff]
      change (((next :: rest).foldlM Scan.step .initial >>= _)).isOk = true ↔ _
      cases (next :: rest).foldlM Scan.step .initial with
      | error fault => simp [Except.isOk, Except.toBool, bind, Except.bind]
      | ok last =>
          rw [Except.ok.injEq, ← Scan.finish_eq_ok_iff]
          simp only [bind, Except.bind]
          cases Scan.finish last with
          | error fault => simp [Except.isOk, Except.toBool]
          | ok done => simp [Except.isOk, Except.toBool, pure, Except.pure]

/-- Tokens pass the check exactly when they are derivable and nest within the bound. -/
theorem checkTokens_isOk_iff_derivable {tokens : List PlacedToken}
    : (checkTokens tokens).isOk = true
      ↔ Derivable (tokens.map PlacedToken.token)
        ∧ NestsWithin maxDepth (tokens.map PlacedToken.token) :=
  checkTokens_isOk_iff.trans Scan.run_to_end_iff

/-- Tokens that are derivable but nest deeper than the bound are found too deep. -/
theorem checkTokens_eq_tooDeep {tokens : List PlacedToken}
    (derivable : Derivable (tokens.map PlacedToken.token))
    (deep : ¬ NestsWithin maxDepth (tokens.map PlacedToken.token))
    : checkTokens tokens = .error .tooDeep := by
  rcases derivable.operand rfl [] with run | found
  · exact absurd (Scan.Run.nestsWithin run) deep
  · cases tokens with
    | nil => cases found
    | cons next rest =>
        rw [checkTokens_cons, Scan.check, found]
        rfl

end SatClient
