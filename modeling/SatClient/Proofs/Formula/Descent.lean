import SatClient.Proofs.Formula.Scanning

/-! The recognizer by binding strength decides as the one-pass scan does, errors included. A
part of the recognizer reads some tokens from the front; the scan reads the same tokens from
a state where an operand is due, and both go on alike from the tokens that are left. The
calls that are under way are the stack of the scan.
-/

namespace SatClient.Recognizer

/-- What the scan says about the tokens that are left: the error, or all variables in order.
-/
def resume (state : Scan.State) (progress : Progress) : Except SyntaxError (List String) := do
  let last ← progress.rest.foldlM Scan.step state
  Scan.finish last
  return progress.atoms.reverse ++ atomsOf (progress.rest.map PlacedToken.token)

theorem resume_nil (state : Scan.State) (atoms : List String)
    : resume state ⟨atoms, []⟩ = Scan.finish state >>= fun _ => .ok atoms.reverse := by
  simp [resume, atomsOf, pure, Except.pure, bind, Except.bind]

/-- The scan goes on after a token that is no variable. -/
theorem resume_cons {state after : Scan.State} {next : PlacedToken} (atoms : List String)
    (rest : List PlacedToken) (taken : Scan.step state next = .ok after)
    (noAtom : ∀ name, next.token ≠ .atom name)
    : resume state ⟨atoms, next :: rest⟩ = resume after ⟨atoms, rest⟩ := by
  have same : atomsOf ((next :: rest).map PlacedToken.token)
      = atomsOf (rest.map PlacedToken.token) := by
    rw [List.map_cons]
    cases token : next.token with
    | atom name => exact absurd token (noAtom name)
    | _ => rfl
  simp only [resume, List.foldlM_cons, taken, same]
  rfl

/-- The scan goes on after a variable, which is noted. -/
theorem resume_atom {state after : Scan.State} {next : PlacedToken} {name : String}
    (atoms : List String) (rest : List PlacedToken)
    (taken : Scan.step state next = .ok after) (isAtom : next.token = .atom name)
    : resume state ⟨atoms, next :: rest⟩ = resume after ⟨name :: atoms, rest⟩ := by
  have same : atomsOf ((next :: rest).map PlacedToken.token)
      = name :: atomsOf (rest.map PlacedToken.token) := by
    rw [List.map_cons, isAtom]
    rfl
  simp only [resume, List.foldlM_cons, taken, same, List.reverse_cons, List.append_assoc,
    List.singleton_append]
  rfl

theorem resume_error {state : Scan.State} {next : PlacedToken} {fault : SyntaxError}
    (atoms : List String) (rest : List PlacedToken)
    (refused : Scan.step state next = .error fault)
    : resume state ⟨atoms, next :: rest⟩ = .error fault := by
  simp only [resume, List.foldlM_cons, refused]
  rfl

/-- A part of the recognizer that reads one operand under the parentheses of `stack` as the
scan does. It takes at least one token and leaves none of the `operators` in front.
-/
structure Reads (stack : List Nat) (operators : List Token) (part : Step) : Prop where
  resumes
    : ∀ progress,
        resume ⟨.operand, stack⟩ progress = part progress >>= resume ⟨.operator, stack⟩
  shorter
    : ∀ {progress after}, part progress = .ok after → after.rest.length < progress.rest.length
  stops
    : ∀ {progress after},
        part progress = .ok after → ∀ next ∈ after.rest.head?, next.token ∉ operators

-----------------------------------------------------------------------------------------
-- Loops over operands
-----------------------------------------------------------------------------------------

variable {stack : List Nat} {operators : List Token} {operand : Step} {operator : Token}

/-- Further operands are read as the scan reads them, by induction on the fuel. -/
theorem Reads.resume_more (reads : Reads stack operators operand) (isBinary : operator.IsBinary)
    (fuel : Nat) (progress : Progress)
    : resume ⟨.operator, stack⟩ progress
      = more operator operand fuel progress >>= resume ⟨.operator, stack⟩ := by
  induction fuel generalizing progress with
  | zero => rfl
  | succ fuel ih =>
      obtain ⟨atoms, rest⟩ := progress
      cases rest with
      | nil => rfl
      | cons next rest =>
          by_cases found : next.token = operator
          · have taken : Scan.step ⟨.operator, stack⟩ next = .ok ⟨.operand, stack⟩ :=
              Scan.Advance.step_eq (.connect (found ▸ isBinary))
            have noAtom : ∀ name, next.token ≠ .atom name := by
              intro name same
              rw [← found, same] at isBinary
              exact absurd isBinary (by simp [Token.IsBinary])
            simp only [more, if_pos found]
            rw [resume_cons atoms rest taken noAtom, reads.resumes]
            cases operand ⟨atoms, rest⟩ with
            | error fault => rfl
            | ok after => exact ih after
          · simp only [more, if_neg found]
            rfl

/-- Further operands leave no more tokens than there were, by induction on the fuel. -/
theorem Reads.length_more_le (reads : Reads stack operators operand) {fuel : Nat}
    {progress after : Progress} (done : more operator operand fuel progress = .ok after)
    : after.rest.length ≤ progress.rest.length := by
  induction fuel generalizing progress with
  | zero =>
      cases done
      exact Nat.le_refl _
  | succ fuel ih =>
      obtain ⟨atoms, rest⟩ := progress
      cases rest with
      | nil =>
          cases done
          exact Nat.le_refl _
      | cons next rest =>
          simp only [more] at done
          split at done
          · obtain ⟨middle, part, done⟩ := exists_of_bind_eq_ok done
            have first := reads.shorter part
            have others := ih done
            simp only [List.length_cons] at first ⊢
            omega
          · cases done
            exact Nat.le_refl _

/-- With fuel for every token that is left, the loop leaves neither its operator nor one of
the tighter operators in front, by induction on the fuel.
-/
theorem Reads.stops_more (reads : Reads stack operators operand) {fuel : Nat}
    {progress after : Progress} (enough : progress.rest.length ≤ fuel)
    (stopped : ∀ next ∈ progress.rest.head?, next.token ∉ operators)
    (done : more operator operand fuel progress = .ok after)
    : ∀ next ∈ after.rest.head?, next.token ∉ operator :: operators := by
  induction fuel generalizing progress with
  | zero =>
      cases done
      rw [List.length_eq_zero_iff.mp (Nat.le_zero.mp enough)]
      simp
  | succ fuel ih =>
      obtain ⟨atoms, rest⟩ := progress
      cases rest with
      | nil =>
          cases done
          simp
      | cons next rest =>
          simp only [more] at done
          split at done
          · obtain ⟨middle, part, done⟩ := exists_of_bind_eq_ok done
            have first := reads.shorter part
            simp only [List.length_cons] at first enough
            exact ih (by omega) (reads.stops part) done
          · next other =>
              cases done
              intro found member
              cases member
              simpa [other] using stopped next rfl

/-- Operands joined by an operator are read as the scan reads them. -/
theorem Reads.chain (reads : Reads stack operators operand) (isBinary : operator.IsBinary)
    : Reads stack (operator :: operators) (chain operator operand) where
  resumes := by
    intro progress
    rw [reads.resumes]
    simp only [Recognizer.chain]
    cases operand progress with
    | error fault => rfl
    | ok after => exact reads.resume_more isBinary after.rest.length after
  shorter := by
    intro progress after done
    obtain ⟨middle, part, done⟩ := exists_of_bind_eq_ok done
    exact Nat.lt_of_le_of_lt (reads.length_more_le done) (reads.shorter part)
  stops := by
    intro progress after done
    obtain ⟨middle, part, done⟩ := exists_of_bind_eq_ok done
    exact reads.stops_more (Nat.le_refl _) (reads.stops part) done

-----------------------------------------------------------------------------------------
-- Parentheses
-----------------------------------------------------------------------------------------

/-- A part of the recognizer that reads what follows an opening parenthesis under `stack`, up
to the closing one, as the scan does.
-/
structure Encloses (stack : List Nat) (inside : Step) : Prop where
  resumes
    : ∀ opened progress,
        resume ⟨.operand, stack⟩
            { progress with rest := ⟨.openParen, opened⟩ :: progress.rest }
          = (inside progress >>= close opened) >>= resume ⟨.operator, stack⟩
  shorter
    : ∀ {progress after}, inside progress = .ok after → after.rest.length < progress.rest.length

/-- The operators that stand between two formulas, loosest first. -/
def binaryOperators : List Token := [.equivalence, .implication, .disjunction, .conjunction]

/-- When no more parentheses may be opened, both refuse the one that was opened. -/
theorem Encloses.of_full (full : maxDepth ≤ stack.length)
    : Encloses stack fun _ => .error .tooDeep where
  resumes := by
    intro opened progress
    refine resume_error progress.atoms progress.rest ?_
    simp only [Scan.step, Scan.operandStep, if_neg (Nat.not_lt.mpr full)]
  shorter := by
    intro progress after done
    cases done

/-- A closing parenthesis is taken as the scan takes it, unless an operator comes first. -/
theorem resume_close (opened : Nat) (progress : Progress)
    (stopped : ∀ next ∈ progress.rest.head?, next.token ∉ binaryOperators)
    : resume ⟨.operator, opened :: stack⟩ progress
      = close opened progress >>= resume ⟨.operator, stack⟩ := by
  obtain ⟨atoms, rest⟩ := progress
  cases rest with
  | nil => rfl
  | cons next rest =>
      obtain ⟨token, offset⟩ := next
      have noOperator := stopped ⟨token, offset⟩ rfl
      cases token with
      | closeParen => exact resume_cons atoms rest Scan.Advance.leave.step_eq (by simp)
      | conjunction | disjunction | implication | equivalence =>
          exact absurd (by simp [binaryOperators]) noOperator
      | _ => exact resume_error atoms rest rfl

/-- What reads a formula under one more parenthesis reads up to the closing one. -/
theorem Encloses.of_reads {inside : Step} (room : stack.length < maxDepth)
    (reads : ∀ opened, Reads (opened :: stack) binaryOperators inside)
    : Encloses stack inside where
  resumes := by
    intro opened progress
    rw [resume_cons progress.atoms progress.rest (Scan.Advance.enter room).step_eq (by simp)]
    rw [(reads opened).resumes progress]
    cases part : inside progress with
    | error fault => rfl
    | ok after => exact resume_close opened after ((reads opened).stops part)
  shorter := (reads 0).shorter

theorem length_close {opened : Nat} {progress after : Progress}
    (done : close opened progress = .ok after)
    : after.rest.length < progress.rest.length := by
  obtain ⟨atoms, rest⟩ := progress
  cases rest with
  | nil => cases done
  | cons next rest =>
      simp only [close] at done
      split at done
      · cases done
        exact Nat.lt_succ_self _
      · cases done

/-- A single operand is read as the scan reads it, by cases on its first token. -/
theorem Encloses.resume_primary {inside : Step} (encloses : Encloses stack inside)
    {progress : Progress} (bare : ∀ next ∈ progress.rest.head?, next.token ≠ .negation)
    : resume ⟨.operand, stack⟩ progress
      = primary inside progress >>= resume ⟨.operator, stack⟩ := by
  obtain ⟨atoms, rest⟩ := progress
  cases rest with
  | nil => rfl
  | cons next rest =>
      obtain ⟨token, offset⟩ := next
      cases token with
      | truth | falsity => exact resume_cons atoms rest rfl (by simp)
      | atom name => exact resume_atom atoms rest rfl rfl
      | openParen => exact encloses.resumes offset ⟨atoms, rest⟩
      | negation => exact absurd rfl (bare ⟨.negation, offset⟩ rfl)
      | _ => exact resume_error atoms rest rfl

theorem Encloses.length_primary {inside : Step} (encloses : Encloses stack inside)
    {progress after : Progress} (done : primary inside progress = .ok after)
    : after.rest.length < progress.rest.length := by
  obtain ⟨atoms, rest⟩ := progress
  cases rest with
  | nil => cases done
  | cons next rest =>
      obtain ⟨token, offset⟩ := next
      cases token with
      | truth | falsity | atom => cases done; exact Nat.lt_succ_self _
      | openParen =>
          obtain ⟨middle, part, done⟩ := exists_of_bind_eq_ok done
          have first := encloses.shorter part
          have last := length_close done
          simp only [List.length_cons] at first ⊢
          omega
      | _ => cases done

/-- An operand with negation signs in front is read as the scan reads it, by induction on
the tokens.
-/
theorem Encloses.negated {inside : Step} (encloses : Encloses stack inside)
    : Reads stack [] (negated (primary inside)) where
  resumes := by
    rintro ⟨atoms, tokens⟩
    simp only [Recognizer.negated]
    induction tokens with
    | nil => exact encloses.resume_primary (by simp)
    | cons next rest ih =>
        by_cases found : next.token = .negation
        · have taken : Scan.step ⟨.operand, stack⟩ next = .ok ⟨.operand, stack⟩ := by
            simp only [Scan.step, Scan.operandStep, found]
          rw [List.dropWhile_cons_of_pos (by simpa using found), ← ih]
          exact resume_cons atoms rest taken (by simp [found])
        · rw [List.dropWhile_cons_of_neg (by simpa using found)]
          exact encloses.resume_primary (by simpa using found)
  shorter := by
    intro progress after done
    have dropped : (progress.rest.dropWhile (·.token = .negation)).length
        ≤ progress.rest.length := (List.dropWhile_suffix _).length_le
    exact Nat.lt_of_lt_of_le (encloses.length_primary done) dropped
  stops := by simp

/-- A formula is read as the scan reads it, by binding strength. -/
theorem Encloses.equivalences {inside : Step} (encloses : Encloses stack inside)
    : Reads stack binaryOperators (equivalences inside) :=
  (((encloses.negated.chain (by decide)).chain (by decide)).chain (by decide)).chain
    (by decide)

/-- A formula with room for more parentheses is read as the scan reads it under those that
are open, by induction on the room.
-/
theorem reads_formula (room : Nat) (stack : List Nat) (total : stack.length + room = maxDepth)
    : Reads stack binaryOperators (formula room) := by
  induction room generalizing stack with
  | zero => exact (Encloses.of_full (by omega)).equivalences
  | succ room ih =>
      refine (Encloses.of_reads (by omega) ?_).equivalences
      intro opened
      exact ih (opened :: stack) (by simp only [List.length_cons]; omega)

/-- After a whole formula the scan finds the end of the tokens or refuses what comes next. -/
theorem resume_whole (progress : Progress)
    (stopped : ∀ next ∈ progress.rest.head?, next.token ∉ binaryOperators)
    : resume ⟨.operator, []⟩ progress
      = match progress.rest with
        | [] => .ok progress.atoms.reverse
        | extra :: _ => .error (.unexpectedToken extra.token extra.offset .operatorOrEnd) := by
  obtain ⟨atoms, rest⟩ := progress
  cases rest with
  | nil => exact resume_nil ⟨.operator, []⟩ atoms
  | cons next rest =>
      obtain ⟨token, offset⟩ := next
      have noOperator := stopped ⟨token, offset⟩ rfl
      cases token with
      | conjunction | disjunction | implication | equivalence =>
          exact absurd (by simp [binaryOperators]) noOperator
      | _ => exact resume_error atoms rest rfl

/-- The recognizer says what the scan says. -/
theorem run_eq_resume (tokens : List PlacedToken)
    : run tokens = resume ⟨.operand, []⟩ ⟨[], tokens⟩ := by
  have reads := reads_formula maxDepth [] (Nat.zero_add _)
  rw [reads.resumes]
  simp only [run]
  cases part : formula maxDepth ⟨[], tokens⟩ with
  | error fault => rfl
  | ok after => exact (resume_whole after (reads.stops part)).symm

end SatClient.Recognizer

namespace SatClient

theorem checkText_of_tokenize {text : String} {placed : List PlacedToken}
    (read : Lexer.tokenize text.toList = .ok placed)
    : checkText text = checkTokens placed := by
  rw [checkText, read]
  rfl

/-- Tokens are checked as the one-pass scan checks them. -/
theorem checkTokens_cons (next : PlacedToken) (rest : List PlacedToken)
    : checkTokens (next :: rest) = Scan.check (next :: rest) := by
  simp only [checkTokens, Recognizer.run_eq_resume, Recognizer.resume, Scan.check]
  cases (next :: rest).foldlM Scan.step ⟨.operand, []⟩ with
  | error fault => rfl
  | ok last =>
      simp only [bind, Except.bind]
      cases Scan.finish last with
      | error fault => rfl
      | ok done => rfl

end SatClient
