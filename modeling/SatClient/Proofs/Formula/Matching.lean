import SatClient.Proofs.Formula.Scanning

/-! Which parentheses match. The parenthesis that closes another one stands behind the first
balanced stretch that it can end. What the stack of a scan holds are the parentheses that
nothing closes, the last one on top.
-/

namespace SatClient

/-- Tokens in which every parenthesis has its match. -/
inductive Balanced : List Token → Prop
  | nil : Balanced []
  | other {token rest} (noOpen : token ≠ .openParen) (noClose : token ≠ .closeParen)
    (tail : Balanced rest)
    : Balanced (token :: rest)
  | parens {inner rest} (inside : Balanced inner) (tail : Balanced rest)
    : Balanced (.openParen :: inner ++ .closeParen :: rest)

/-- Nothing in the tokens after an opening parenthesis closes it. -/
def Unclosed (rest : List PlacedToken) : Prop :=
  ¬ ∃ inner closed after,
      rest = inner ++ ⟨.closeParen, closed⟩ :: after
      ∧ Balanced (inner.map PlacedToken.token)

/-- The last opening parenthesis that nothing closes has this offset. -/
def LastUnclosed (tokens : List PlacedToken) (offset : Nat) : Prop :=
  ∃ front rest,
    tokens = front ++ ⟨.openParen, offset⟩ :: rest
    ∧ Unclosed rest
    ∧ ∀ before later after, rest = before ++ ⟨.openParen, later⟩ :: after → ¬ Unclosed after

-----------------------------------------------------------------------------------------
-- Balanced stretches
-----------------------------------------------------------------------------------------

theorem Balanced.append {front back : List Token} (first : Balanced front)
    (second : Balanced back)
    : Balanced (front ++ back) := by
  induction first with
  | nil => exact second
  | other noOpen noClose _ ih => exact .other noOpen noClose ih
  | @parens inner rest inside _ _ ih =>
      rw [List.append_assoc, List.cons_append]
      exact .parens inside ih

theorem Balanced.count_eq {tokens : List Token} (balanced : Balanced tokens)
    : tokens.count .openParen = tokens.count .closeParen := by
  induction balanced with
  | nil => rfl
  | other noOpen noClose _ ih =>
      rw [List.count_cons_of_ne noOpen, List.count_cons_of_ne noClose, ih]
  | parens _ _ inside tail =>
      simp only [List.cons_append, List.count_cons, List.count_append, inside, tail]
      simp
      omega

/-- The front of a balanced stretch closes no more parentheses than it opens, by induction on
the stretch.
-/
theorem Balanced.count_front_le {front back : List Token} (balanced : Balanced (front ++ back))
    : front.count .closeParen ≤ front.count .openParen := by
  generalize whole : front ++ back = tokens at balanced
  induction balanced generalizing front back with
  | nil =>
      cases (List.append_eq_nil_iff.mp whole).1
      exact Nat.le_refl _
  | other noOpen noClose _ ih =>
      cases front with
      | nil => exact Nat.le_refl _
      | cons first others =>
          cases whole
          rw [List.count_cons_of_ne noOpen, List.count_cons_of_ne noClose]
          exact ih rfl
  | @parens inner rest inside _ insideFront tailFront =>
      cases front with
      | nil => exact Nat.le_refl _
      | cons first others =>
          simp only [List.cons_append, List.cons.injEq] at whole
          obtain ⟨rfl, whole⟩ := whole
          rw [List.count_cons_self, List.count_cons_of_ne (by decide)]
          rcases List.append_eq_append_iff.mp whole with
            ⟨middle, same, _⟩ | ⟨middle, rfl, same⟩
          · have bound := insideFront same.symm
            omega
          · have equal := inside.count_eq
            cases middle with
            | nil =>
                rw [List.append_nil]
                omega
            | cons second more =>
                cases same
                have bound := tailFront rfl
                rw [List.count_append, List.count_append, List.count_cons_self,
                  List.count_cons_of_ne (by decide)]
                omega

/-- Every opening parenthesis in a balanced stretch is closed behind a balanced stretch, by
induction on the whole.
-/
theorem Balanced.exists_match {before after : List Token}
    (balanced : Balanced (before ++ .openParen :: after))
    : ∃ inner rest, after = inner ++ .closeParen :: rest ∧ Balanced inner := by
  generalize whole : before ++ .openParen :: after = tokens at balanced
  induction balanced generalizing before after with
  | nil => cases before <;> cases whole
  | other noOpen noClose _ ih =>
      cases before with
      | nil =>
          cases whole
          exact absurd rfl noOpen
      | cons first others =>
          cases whole
          exact ih rfl
  | @parens inner rest inside _ insideMatch tailMatch =>
      cases before with
      | nil =>
          cases whole
          exact ⟨inner, rest, rfl, inside⟩
      | cons first others =>
          simp only [List.cons_append, List.cons.injEq] at whole
          rcases List.append_eq_append_iff.mp whole.2 with
            ⟨middle, rfl, same⟩ | ⟨middle, rfl, same⟩
          · cases middle with
            | nil => cases same
            | cons second more =>
                cases same
                obtain ⟨closer, left, rfl, balanced⟩ := insideMatch rfl
                exact ⟨closer, left ++ .closeParen :: rest, by simp, balanced⟩
          · cases middle with
            | nil => cases same
            | cons second more =>
                cases same
                exact tailMatch rfl

-----------------------------------------------------------------------------------------
-- The stack of a scan
-----------------------------------------------------------------------------------------

/-- Tokens that leave the parentheses with these offsets open, the innermost first: a balanced
stretch follows each of them, and one comes before all.
-/
inductive Leaves : List PlacedToken → List Nat → Prop
  | flat {tokens} (balanced : Balanced (tokens.map PlacedToken.token)) : Leaves tokens []
  | under {before after outer opened} (leaves : Leaves before outer)
    (balanced : Balanced (after.map PlacedToken.token))
    : Leaves (before ++ ⟨.openParen, opened⟩ :: after) (opened :: outer)

/-- A token that is no parenthesis leaves open what was open. -/
theorem Leaves.snoc {tokens : List PlacedToken} {stack : List Nat} {next : PlacedToken}
    (leaves : Leaves tokens stack) (noOpen : next.token ≠ .openParen)
    (noClose : next.token ≠ .closeParen)
    : Leaves (tokens ++ [next]) stack := by
  have single : Balanced ([next].map PlacedToken.token) := .other noOpen noClose .nil
  cases leaves with
  | flat balanced =>
      refine .flat ?_
      rw [List.map_append]
      exact balanced.append single
  | under outer balanced =>
      rw [List.append_assoc, List.cons_append]
      refine .under outer ?_
      rw [List.map_append]
      exact balanced.append single

/-- A closing parenthesis leaves open all but the innermost one, whose stretch becomes part of
the one around it.
-/
theorem Leaves.close {tokens : List PlacedToken} {stack : List Nat} {opened closed : Nat}
    (leaves : Leaves tokens (opened :: stack))
    : Leaves (tokens ++ [⟨.closeParen, closed⟩]) stack := by
  cases leaves with
  | @under before after _ _ outer balanced =>
      have group : Balanced (.openParen :: after.map PlacedToken.token ++ [.closeParen]) :=
        .parens balanced .nil
      cases outer with
      | flat around =>
          refine .flat ?_
          simpa using around.append group
      | @under front middle _ earlier outer around =>
          have same : front ++ ⟨.openParen, earlier⟩ :: middle ++ ⟨.openParen, opened⟩ :: after
                ++ [⟨.closeParen, closed⟩]
              = front ++ ⟨.openParen, earlier⟩ ::
                  (middle ++ ⟨.openParen, opened⟩ :: after ++ [⟨.closeParen, closed⟩]) := by
            simp
          rw [same]
          refine .under outer ?_
          simpa using around.append group

/-- A step keeps the stack to what the tokens leave open, by cases on the step. -/
theorem Scan.Advance.leaves {tokens : List PlacedToken} {state next after}
    (advance : Advance state next after) (leaves : Leaves tokens state.stack)
    : Leaves (tokens ++ [next]) after.stack := by
  cases advance with
  | negate => exact leaves.snoc (by simp) (by simp)
  | operand isOperand => cases isOperand <;> exact leaves.snoc (by simp) (by simp)
  | enter => exact .under leaves .nil
  | connect isBinary =>
      rcases isBinary with rfl | rfl | rfl | rfl <;> exact leaves.snoc (by simp) (by simp)
  | leave => exact leaves.close

/-- A run keeps the stack to what the tokens leave open, by induction on the run. -/
theorem Scan.Run.leaves {front : List PlacedToken} {state tokens last}
    (run : Run state tokens last) (leaves : Leaves front state.stack)
    : Leaves (front ++ tokens) last.stack := by
  induction run generalizing front with
  | nil => simpa using leaves
  | cons first _ ih => simpa using ih (first.leaves leaves)

/-- Nothing in a balanced stretch closes a parenthesis in front of it. -/
theorem unclosed_of_balanced {rest : List PlacedToken}
    (balanced : Balanced (rest.map PlacedToken.token))
    : Unclosed rest := by
  rintro ⟨inner, closed, after, rfl, inside⟩
  have split : (inner ++ ⟨.closeParen, closed⟩ :: after).map PlacedToken.token
      = (inner.map PlacedToken.token ++ [.closeParen]) ++ after.map PlacedToken.token := by
    simp
  rw [split] at balanced
  have bound := balanced.count_front_le
  have equal := inside.count_eq
  rw [List.count_append, List.count_append, equal, List.count_singleton_self] at bound
  have noOpening : [Token.closeParen].count .openParen = 0 := rfl
  omega

/-- What is opened in a balanced stretch is closed there. -/
theorem not_unclosed_of_balanced {before after : List PlacedToken} {opened : Nat}
    (balanced : Balanced ((before ++ ⟨.openParen, opened⟩ :: after).map PlacedToken.token))
    : ¬ Unclosed after := by
  intro unclosed
  rw [List.map_append, List.map_cons] at balanced
  obtain ⟨inner, rest, same, inside⟩ := balanced.exists_match
  obtain ⟨placedInner, others, rfl, rfl, closing⟩ := List.map_eq_append_iff.mp same
  obtain ⟨⟨token, closed⟩, placedRest, rfl, isClose, _⟩ := List.map_eq_cons_iff.mp closing
  cases isClose
  exact unclosed ⟨placedInner, closed, placedRest, rfl, inside⟩

/-- The top of the stack is the last parenthesis that nothing closes. -/
theorem Leaves.lastUnclosed {tokens : List PlacedToken} {opened : Nat} {outer : List Nat}
    (leaves : Leaves tokens (opened :: outer))
    : LastUnclosed tokens opened := by
  cases leaves with
  | @under front rest _ _ _ balanced =>
      refine ⟨front, rest, rfl, unclosed_of_balanced balanced, ?_⟩
      rintro before later after rfl
      exact not_unclosed_of_balanced balanced

end SatClient
