import SatClient.Formula.Grammar
import SatClient.Formula.Scan
import SatClient.Proofs.Bind

/-! Runs of the one-pass scan. What one token can do to a state is said once, as a relation
with one rule for each kind of token, and everything about whole runs is derived from it: the
stack holds the parentheses that are open, and a run that is refused is refused at one token.
-/

namespace SatClient

/-- The tokens that are a whole operand. -/
inductive Token.IsOperand : Token → Prop
  | truth : IsOperand .truth
  | falsity : IsOperand .falsity
  | atom (name : String) : IsOperand (.atom name)

namespace Scan

-----------------------------------------------------------------------------------------
-- One token
-----------------------------------------------------------------------------------------

inductive Advance : State → PlacedToken → State → Prop
  | negate {stack offset} : Advance ⟨.operand, stack⟩ ⟨.negation, offset⟩ ⟨.operand, stack⟩
  | operand {stack token offset} (isOperand : token.IsOperand)
    : Advance ⟨.operand, stack⟩ ⟨token, offset⟩ ⟨.operator, stack⟩
  | enter {stack offset} (room : stack.length < maxDepth)
    : Advance ⟨.operand, stack⟩ ⟨.openParen, offset⟩ ⟨.operand, offset :: stack⟩
  | connect {stack token offset} (isBinary : token.IsBinary)
    : Advance ⟨.operator, stack⟩ ⟨token, offset⟩ ⟨.operand, stack⟩
  | leave {stack opened offset}
    : Advance ⟨.operator, opened :: stack⟩ ⟨.closeParen, offset⟩ ⟨.operator, stack⟩

inductive Refusal : State → PlacedToken → SyntaxError → Prop
  | tooDeep {stack offset} (full : maxDepth ≤ stack.length)
    : Refusal ⟨.operand, stack⟩ ⟨.openParen, offset⟩ .tooDeep
  | noOperand {stack token offset}
    : Refusal ⟨.operand, stack⟩ ⟨token, offset⟩ (.unexpectedToken token offset .operand)
  | noOperator {stack token offset}
    : Refusal ⟨.operator, stack⟩ ⟨token, offset⟩
        (.unexpectedToken token offset (afterOperand stack))

theorem Advance.step_eq {state next after} (advance : Advance state next after)
    : step state next = .ok after := by
  cases advance with
  | negate => rfl
  | operand isOperand => cases isOperand <;> rfl
  | enter room => simp only [step, operandStep, if_pos room]
  | connect isBinary => rcases isBinary with rfl | rfl | rfl | rfl <;> rfl
  | leave => rfl

theorem advance_of_step {state next after} (taken : step state next = .ok after)
    : Advance state next after := by
  obtain ⟨mode, stack⟩ := state
  obtain ⟨token, offset⟩ := next
  cases mode with
  | operand =>
      cases token with
      | negation => cases taken; exact .negate
      | truth => cases taken; exact .operand .truth
      | falsity => cases taken; exact .operand .falsity
      | atom name => cases taken; exact .operand (.atom name)
      | openParen =>
          simp only [step, operandStep] at taken
          split at taken
          next room => cases taken; exact .enter room
          next => cases taken
      | _ => cases taken
  | operator =>
      cases token with
      | conjunction => cases taken; exact .connect (by decide)
      | disjunction => cases taken; exact .connect (by decide)
      | implication => cases taken; exact .connect (by decide)
      | equivalence => cases taken; exact .connect (by decide)
      | closeParen =>
          cases stack with
          | nil => cases taken
          | cons opened outer => cases taken; exact .leave
      | _ => cases taken

/-- Every step that is not taken is refused in one of three ways, by cases on mode and token.
-/
theorem refusal_of_step {state next fault} (refused : step state next = .error fault)
    : Refusal state next fault := by
  obtain ⟨mode, stack⟩ := state
  obtain ⟨token, offset⟩ := next
  cases mode with
  | operand =>
      cases token with
      | openParen =>
          simp only [step, operandStep] at refused
          split at refused
          next => cases refused
          next full => cases refused; exact .tooDeep (Nat.le_of_not_lt full)
      | _ => cases refused <;> exact .noOperand
  | operator =>
      cases token with
      | closeParen =>
          cases stack with
          | nil => cases refused; exact .noOperator
          | cons opened outer => cases refused
      | _ => cases refused <;> exact .noOperator

-----------------------------------------------------------------------------------------
-- Several tokens
-----------------------------------------------------------------------------------------

/-- A run over several tokens, each of which is taken. -/
inductive Run : State → List PlacedToken → State → Prop
  | nil {state} : Run state [] state
  | cons {state next middle rest last} (first : Advance state next middle)
    (others : Run middle rest last)
    : Run state (next :: rest) last

/-- A fold of steps succeeds exactly along a run. -/
theorem foldlM_eq_ok_iff {state tokens last}
    : tokens.foldlM step state = .ok last ↔ Run state tokens last := by
  induction tokens generalizing state with
  | nil =>
      constructor
      · intro done
        cases done
        exact .nil
      · intro run
        cases run
        rfl
  | cons next rest ih =>
      rw [List.foldlM_cons]
      constructor
      · intro done
        obtain ⟨middle, taken, others⟩ := exists_of_bind_eq_ok done
        exact .cons (advance_of_step taken) (ih.mp others)
      · intro run
        cases run with
        | cons first others =>
            rw [first.step_eq]
            exact ih.mpr others

theorem Run.unique {state tokens last other} (run : Run state tokens last)
    (again : Run state tokens other)
    : last = other :=
  Except.ok.inj ((foldlM_eq_ok_iff.mpr run).symm.trans (foldlM_eq_ok_iff.mpr again))

theorem Run.append {state front middle back last} (run : Run state front middle)
    (next : Run middle back last)
    : Run state (front ++ back) last := by
  induction run with
  | nil => exact next
  | cons first _ ih => exact .cons first (ih next)

/-- A run over two lists passes through a state between them. -/
theorem Run.split {state front back last} (run : Run state (front ++ back) last)
    : ∃ middle, Run state front middle ∧ Run middle back last := by
  induction front generalizing state with
  | nil => exact ⟨state, .nil, run⟩
  | cons next rest ih =>
      cases run with
      | cons first others =>
          obtain ⟨middle, before, after⟩ := ih others
          exact ⟨middle, .cons first before, after⟩

/-- A fold that fails does so at one token, up to which there is a run. -/
theorem foldlM_eq_error {state tokens fault}
    (failed : tokens.foldlM step state = .error fault)
    : ∃ front next rest middle,
        tokens = front ++ next :: rest
        ∧ Run state front middle
        ∧ Refusal middle next fault
        ∧ step middle next = .error fault := by
  induction tokens generalizing state with
  | nil => cases failed
  | cons next rest ih =>
      rw [List.foldlM_cons] at failed
      cases taken : step state next with
      | error other =>
          rw [taken] at failed
          cases failed
          exact ⟨[], next, rest, state, rfl, .nil, refusal_of_step taken, taken⟩
      | ok middle =>
          rw [taken] at failed
          obtain ⟨front, bad, tail, last, same, run, refusal, refused⟩ := ih failed
          subst same
          exact ⟨next :: front, bad, tail, last, rfl, .cons (advance_of_step taken) run, refusal,
            refused⟩

-----------------------------------------------------------------------------------------
-- How deep a run is
-----------------------------------------------------------------------------------------

def State.initial : State := ⟨.operand, []⟩

/-- A step changes the number of open parentheses by what its token opens and closes. -/
theorem Advance.balance {state next after} (advance : Advance state next after)
    : after.stack.length + [next.token].count .closeParen
      = state.stack.length + [next.token].count .openParen := by
  cases advance with
  | negate => rfl
  | operand isOperand => cases isOperand <;> rfl
  | enter => rfl
  | connect isBinary => rcases isBinary with rfl | rfl | rfl | rfl <;> rfl
  | leave => rfl

/-- A run changes the number of open parentheses by what its tokens open and close, by
induction on the run.
-/
theorem Run.balance {state tokens last} (run : Run state tokens last)
    : last.stack.length + (tokens.map PlacedToken.token).count .closeParen
      = state.stack.length + (tokens.map PlacedToken.token).count .openParen := by
  induction run with
  | nil => rfl
  | @cons state next middle rest last first _ ih =>
      have step := first.balance
      have split (token : Token)
          : ((next :: rest).map PlacedToken.token).count token
            = [next.token].count token + (rest.map PlacedToken.token).count token := by
        rw [List.map_cons, ← List.singleton_append, List.count_append]
      rw [split, split]
      omega

theorem Advance.length_stack_le {state next after} (advance : Advance state next after)
    (bound : state.stack.length ≤ maxDepth)
    : after.stack.length ≤ maxDepth := by
  cases advance with
  | enter room => exact room
  | leave => exact Nat.le_of_succ_le bound
  | _ => exact bound

/-- A run opens no parenthesis beyond the bound, by induction on the run. -/
theorem Run.length_stack_le {state tokens last} (run : Run state tokens last)
    (bound : state.stack.length ≤ maxDepth)
    : last.stack.length ≤ maxDepth := by
  induction run with
  | nil => exact bound
  | cons first _ ih => exact ih (first.length_stack_le bound)

theorem Run.nestsWithin {tokens last} (run : Run .initial tokens last)
    : NestsWithin maxDepth (tokens.map PlacedToken.token) := by
  rintro front ⟨back, same⟩
  obtain ⟨before, after, rfl, rfl, _⟩ := List.map_eq_append_iff.mp same.symm
  obtain ⟨middle, firstPart, _⟩ := run.split
  have balance := firstPart.balance
  have bound := firstPart.length_stack_le (Nat.zero_le _)
  simp only [State.initial, List.length_nil] at balance
  omega

/-- Tokens with one more opening parenthesis than there is room for do not nest within the
bound.
-/
theorem Run.not_nestsWithin {front middle offset} (rest : List PlacedToken)
    (run : Run .initial front middle) (full : maxDepth ≤ middle.stack.length)
    : ¬ NestsWithin maxDepth ((front ++ ⟨.openParen, offset⟩ :: rest).map PlacedToken.token) := by
  intro nests
  have balance := run.balance
  have within := nests (front.map PlacedToken.token ++ [.openParen])
    ⟨rest.map PlacedToken.token, by simp⟩
  simp only [State.initial, List.length_nil] at balance
  simp only [List.count_append, List.count_singleton_self] at within
  have noClosing : [Token.openParen].count .closeParen = 0 := rfl
  omega

/-- Every state can be led to the end of a formula: an operand where one is due, then a
closing parenthesis for each that is open.
-/
theorem exists_run_to_end (state : State)
    : ∃ more, Run state more ⟨.operator, []⟩ := by
  obtain ⟨mode, stack⟩ := state
  have closing (stack : List Nat) : ∃ more, Run ⟨.operator, stack⟩ more ⟨.operator, []⟩ := by
    induction stack with
    | nil => exact ⟨[], .nil⟩
    | cons opened outer ih =>
        obtain ⟨more, run⟩ := ih
        exact ⟨⟨.closeParen, 0⟩ :: more, .cons .leave run⟩
  obtain ⟨more, run⟩ := closing stack
  cases mode with
  | operator => exact ⟨more, run⟩
  | operand => exact ⟨⟨.truth, 0⟩ :: more, .cons (.operand .truth) run⟩

end Scan

end SatClient
