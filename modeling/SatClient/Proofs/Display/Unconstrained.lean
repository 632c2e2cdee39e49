import SatClient.Display.Result
import SatClient.Proofs.Formula.Variables

/-! The variables that a satisfying assignment leaves free. Every variable of a formula is either
named by the assignment or listed as free, and never both. Where there is no satisfying assignment,
none is listed.
-/

namespace SatClient.Outcome

/-- Bindings and a list of free variables account for a text: each of its variables is bound or
free, and not both. The free ones are listed once, in the order in which they appear in the text.
-/
structure AccountsFor (text : List Char) (bindings : List Binding) (free : List String) : Prop where
  covered
    : ∀ name,
        HasVariable text name
        ↔ (HasVariable text name ∧ ∃ binding ∈ bindings, binding.name = name) ∨ name ∈ free
  apart : ∀ name ∈ free, ∀ binding ∈ bindings, binding.name ≠ name
  once : free.Nodup
  order : free.Pairwise (AppearsBefore text)

/-- Only satisfiable outcomes have bindings that satisfy anything: those of an assignment that came
without an error.
-/
theorem exists_assignment_of_satisfiable {rule : UnsatRule} {response : Response}
    {bindings : List Binding} (satisfied : ofResponse rule response = .satisfiable bindings)
    : ∃ assignment,
        response = ⟨some assignment, none⟩
        ∧ bindings = Assignment.parse assignment := by
  obtain ⟨assignment?, error?⟩ := response
  cases error? with
  | some message => cases satisfied
  | none =>
      cases assignment? with
      | none => cases satisfied
      | some assignment =>
          refine ⟨assignment, rfl, ?_⟩
          simp only [ofResponse] at satisfied
          split at satisfied
          · cases satisfied
          · cases satisfied
            rfl

theorem mem_unconstrained_iff {bindings : List Binding} {checked : Checked} {name : String}
    : name ∈ (satisfiable bindings).unconstrained (some checked)
      ↔ name ∈ checked.atoms ∧ ∀ binding ∈ bindings, binding.name ≠ name := by
  simp [unconstrained]

/-- Whatever is bound, the variables of a formula that are not are listed as free. -/
theorem accountsFor_unconstrained {text : String} {checked : Checked}
    (passed : checkText text = .ok checked) (bindings : List Binding)
    : AccountsFor text.toList bindings ((satisfiable bindings).unconstrained (some checked)) := by
  obtain ⟨members, order⟩ := variables_of_checkText passed
  have kept : ((satisfiable bindings).unconstrained (some checked)).Pairwise
      (AppearsBefore text.toList) :=
    order.sublist List.filter_sublist
  refine ⟨fun name => ?_, fun name free => (mem_unconstrained_iff.mp free).2,
    kept.imp AppearsBefore.ne, kept⟩
  rw [mem_unconstrained_iff, members]
  constructor
  · intro appears
    by_cases bound : ∃ binding ∈ bindings, binding.name = name
    · exact .inl ⟨appears, bound⟩
    · exact .inr ⟨appears, fun binding member same => bound ⟨binding, member, same⟩⟩
  · rintro (⟨appears, _⟩ | ⟨appears, _⟩) <;> exact appears

/-- Every variable of a formula is accounted for by an answer that satisfies it, and no variable is
listed as free with any other outcome.
-/
theorem accountsFor_ofResponse {text : String} {checked : Checked}
    (passed : checkText text = .ok checked)
    : (∀ rule response bindings,
        ofResponse rule response = .satisfiable bindings
        → ∃ assignment,
            response = ⟨some assignment, none⟩
            ∧ AccountsFor text.toList (Assignment.parse assignment)
                ((ofResponse rule response).unconstrained (some checked)))
      ∧ ∀ outcome : Outcome,
          (∀ bindings, outcome ≠ .satisfiable bindings)
          → outcome.unconstrained (some checked) = [] := by
  constructor
  · intro rule response bindings satisfied
    obtain ⟨assignment, whole, rfl⟩ := exists_assignment_of_satisfiable satisfied
    rw [satisfied]
    exact ⟨assignment, whole, accountsFor_unconstrained passed _⟩
  · intro outcome other
    cases outcome with
    | satisfiable bindings => exact absurd rfl (other bindings)
    | unsatisfiable _ => rfl
    | error _ => rfl

/-- A variable that is bound twice, two that tokens without a pair do not bind, and a name that is
no variable of the formula.
-/
theorem accountsFor_ofResponse_repeated
    : checkText "b_1|(a&~b_1)->c" = .ok ⟨["b_1", "a", "c"]⟩
      ∧ ofResponse .anyFalse ⟨some "(c,true) b_1 (a,no,) (b,1) (c,no)", none⟩
        = .satisfiable [⟨"c", true⟩, ⟨"b", false⟩, ⟨"c", false⟩]
      ∧ AccountsFor "b_1|(a&~b_1)->c".toList [⟨"c", true⟩, ⟨"b", false⟩, ⟨"c", false⟩]
          ["b_1", "a"] := by
  have valid : Layout.Valid
      ⟨[⟨[], .atom "b_1"⟩, ⟨[], .disjunction⟩, ⟨[], .openParen⟩, ⟨[], .atom "a"⟩,
        ⟨[], .conjunction⟩, ⟨[], .negation⟩, ⟨[], .atom "b_1"⟩, ⟨[], .closeParen⟩,
        ⟨[], .implication⟩, ⟨[], .atom "c"⟩], []⟩ := by
    decide
  have passed : checkText "b_1|(a&~b_1)->c" = .ok ⟨["b_1", "a", "c"]⟩ :=
    (@checkText_of_tokenize "b_1|(a&~b_1)->c" _ valid.tokenize).trans
      (checkTokens_of_ne_nil (List.cons_ne_nil _ _))
  have satisfied : ofResponse .anyFalse ⟨some "(c,true) b_1 (a,no,) (b,1) (c,no)", none⟩
      = .satisfiable [⟨"c", true⟩, ⟨"b", false⟩, ⟨"c", false⟩] := by
    decide
  obtain ⟨assignment, whole, accounts⟩ := (accountsFor_ofResponse passed).1 _ _ _ satisfied
  cases whole
  have bindings : Assignment.parse "(c,true) b_1 (a,no,) (b,1) (c,no)"
      = [⟨"c", true⟩, ⟨"b", false⟩, ⟨"c", false⟩] := by
    decide
  rw [satisfied, bindings] at accounts
  exact ⟨passed, satisfied, accounts⟩

end SatClient.Outcome
