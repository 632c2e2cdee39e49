import Mathlib.Data.List.Count
import SatClient.Outcome.Basic
import SatClient.Proofs.Solver.Encoding

/-! The written procedure for answers of the solver takes all parentheses out of a token, while
reading an assignment only takes off those at its ends. Both keep the same tokens, and they come
to the same outcome exactly where no parenthesis inside a token matters.
-/

namespace SatClient

open Text

-----------------------------------------------------------------------------------------
-- The written procedure
-----------------------------------------------------------------------------------------

namespace Assignment

/-- A text without parentheses, wherever they stand. -/
def withoutParens (text : List Char) : List Char :=
  text.filter fun c => !(c == '(' || c == ')')

/-- The two parts of a token between commas, once its parentheses are taken out. -/
def parts? (token : List Char) : Option RawPair :=
  match (withoutParens token).splitOn ',' with
  | [name, value] => some ⟨name, value⟩
  | _ => none

/-- The parts of the tokens that have exactly two, in order. -/
def keptParts (assignment : String) : List RawPair :=
  (assignment.toList.splitOn ' ').filterMap parts?

end Assignment

namespace Outcome

open Assignment (keptParts)

def written (rule : UnsatRule) : Response → Outcome
  | ⟨_, some message⟩ => .error message
  | ⟨none, none⟩ => .error "Solver returned neither an assignment nor an error"
  | ⟨some assignment, none⟩ =>
      let kept := keptParts assignment
      let bindings :=
        (kept.filter fun pair => pair.name ≠ []).map fun pair =>
          Binding.mk (String.ofList pair.name) (pair.value == "true".toList)
      if assignment = "(,false)"
          ∨ rule = .anyFalse ∧ ∃ pair ∈ kept, pair.value = "false".toList then
        .unsatisfiable bindings
      else .satisfiable bindings

end Outcome

-----------------------------------------------------------------------------------------
-- Tokens by the procedure and by reading
-----------------------------------------------------------------------------------------

namespace Assignment

/-- A pair without the parentheses inside its name and its value. -/
def bare (pair : RawPair) : RawPair := ⟨withoutParens pair.name, withoutParens pair.value⟩

theorem withoutParens_of_parens {text : List Char} (parens : ∀ c ∈ text, c = '(' ∨ c = ')')
    : withoutParens text = [] := by
  rw [withoutParens, List.filter_eq_nil_iff]
  intro c member
  rcases parens c member with rfl | rfl <;> decide

theorem withoutParens_append (front back : List Char)
    : withoutParens (front ++ back) = withoutParens front ++ withoutParens back :=
  List.filter_append ..

/-- The parentheses around a token are among those that the procedure takes out. -/
theorem withoutParens_stripParens (token : List Char)
    : withoutParens (stripParens token) = withoutParens token := by
  have front : withoutParens (token.takeWhile (· == '(')) = [] :=
    withoutParens_of_parens fun c member => .inl (by simpa using List.mem_takeWhile_imp member)
  have back : withoutParens ((token.dropWhile (· == '(')).rtakeWhile (· == ')')) = [] :=
    withoutParens_of_parens fun c member => .inr (by simpa using List.mem_rtakeWhile_imp member)
  have whole := List.takeWhile_append_dropWhile (p := (· == '(')) (l := token)
  have inner :=
    List.rdropWhile_append_rtakeWhile (p := (· == ')')) (l := token.dropWhile (· == '('))
  rw [← inner] at whole
  rw [← whole, withoutParens_append, withoutParens_append, front, back, List.nil_append,
    List.append_nil]
  rw [whole]
  rfl

/-- The procedure keeps the tokens that reading keeps, and takes more parentheses out of them. -/
theorem parts?_eq (token : List Char) : parts? token = (pairOf? token).map bare := by
  rw [pairOf?_eq_split, parts?, ← withoutParens_stripParens, withoutParens,
    splitOn_filter (by decide)]
  rcases (stripParens token).splitOn ',' with _ | ⟨name, _ | ⟨value, _ | ⟨third, rest⟩⟩⟩ <;> rfl

theorem keptParts_eq (assignment : String)
    : keptParts assignment = (rawPairs assignment).map bare := by
  rw [keptParts, rawPairs, pairsOf, List.map_filterMap]
  exact List.filterMap_congr fun token _ => parts?_eq token

-----------------------------------------------------------------------------------------
-- Where both come to the same
-----------------------------------------------------------------------------------------

/-- Parentheses inside the kept tokens of an assignment make no difference: no name holds any, no
value of a named token is the word for truth but for parentheses in it, and where a value would
count as the word for falsehood without them, another one is that word as it stands.
-/
structure ReadsAlike (rule : UnsatRule) (assignment : String) : Prop where
  names : ∀ pair ∈ rawPairs assignment, withoutParens pair.name = pair.name
  truths
    : ∀ pair ∈ rawPairs assignment,
        pair.name ≠ []
        → withoutParens pair.value = "true".toList
        → pair.value = "true".toList
  falsehoods
    : rule = .anyFalse
      → assignment ≠ sentinel
      → ∀ pair ∈ rawPairs assignment,
          withoutParens pair.value = "false".toList
          → ∃ other ∈ rawPairs assignment, other.value = "false".toList

/-- Two ways to pick from a list come to the same only if they pick the same from each element,
when one of them never picks where the other does not.
-/
theorem filterMap_eq_filterMap_iff {α β : Type} {f g : α → Option β}
    (less : ∀ x, f x = none → g x = none) (l : List α)
    : l.filterMap f = l.filterMap g ↔ ∀ x ∈ l, f x = g x := by
  refine ⟨?_, List.filterMap_congr⟩
  induction l with
  | nil => simp
  | cons x rest ih =>
      have shorter : (rest.filterMap g).length ≤ (rest.filterMap f).length := by
        rw [List.length_filterMap_eq_countP, List.length_filterMap_eq_countP]
        refine List.countP_mono_left fun y _ picked => ?_
        cases found : f y with
        | none => simp [less y found] at picked
        | some _ => rfl
      intro same
      rw [List.forall_mem_cons]
      cases first : f x with
      | none =>
          rw [List.filterMap_cons_none first, List.filterMap_cons_none (less x first)] at same
          exact ⟨(less x first).symm, ih same⟩
      | some y =>
          cases second : g x with
          | none =>
              rw [List.filterMap_cons_some first, List.filterMap_cons_none second] at same
              rw [← same, List.length_cons] at shorter
              omega
          | some z =>
              rw [List.filterMap_cons_some first, List.filterMap_cons_some second,
                List.cons.injEq] at same
              exact ⟨congrArg some same.1, ih same.2⟩

theorem binding?_of_nameless {pair : RawPair} (nameless : pair.name = [])
    : binding? pair = none := by
  simp [binding?, nameless]

theorem binding?_of_named {pair : RawPair} (named : pair.name ≠ [])
    : binding? pair = some ⟨String.ofList pair.name, pair.value == "true".toList⟩ := by
  rw [binding?, if_neg (by simpa using named)]
  rfl

theorem filter_map_eq_filterMap_binding? (pairs : List RawPair)
    : ((pairs.filter fun pair => pair.name ≠ []).map fun pair =>
        Binding.mk (String.ofList pair.name) (pair.value == "true".toList))
      = pairs.filterMap binding? := by
  induction pairs with
  | nil => rfl
  | cons pair rest ih =>
      by_cases nameless : pair.name = []
      · rw [List.filter_cons_of_neg (by simp [nameless]), ih,
          List.filterMap_cons_none (binding?_of_nameless nameless)]
      · rw [List.filter_cons_of_pos (by simpa using nameless), List.map_cons, ih,
          List.filterMap_cons_some (binding?_of_named nameless)]

theorem binding?_bare_of_none {pair : RawPair} (missing : binding? pair = none)
    : binding? (bare pair) = none := by
  by_cases nameless : pair.name = []
  · exact binding?_of_nameless (by simp [bare, nameless, withoutParens])
  · rw [binding?_of_named nameless] at missing
    cases missing

/-- The word for truth has no parentheses, so that a value that reads as true always does. -/
theorem beq_true_eq_iff (value : List Char)
    : ((value == "true".toList) = (withoutParens value == "true".toList))
      ↔ (withoutParens value = "true".toList → value = "true".toList) := by
  have stays : value = "true".toList → withoutParens value = "true".toList := by
    rintro rfl
    decide
  rw [Bool.eq_iff_iff, beq_iff_eq, beq_iff_eq]
  exact ⟨Iff.mpr, fun back => ⟨stays, back⟩⟩

theorem binding?_eq_bare_iff (pair : RawPair)
    : binding? pair = binding? (bare pair)
      ↔ withoutParens pair.name = pair.name
        ∧ (pair.name ≠ []
          → withoutParens pair.value = "true".toList
          → pair.value = "true".toList) := by
  by_cases nameless : pair.name = []
  · rw [binding?_of_nameless nameless,
      binding?_bare_of_none (binding?_of_nameless nameless)]
    simp [nameless, withoutParens]
  · rw [binding?_of_named nameless]
    by_cases gone : (bare pair).name = []
    · rw [binding?_of_nameless gone]
      replace gone : withoutParens pair.name = [] := gone
      simp [gone, Ne.symm nameless]
    · rw [binding?_of_named gone, Option.some.injEq, Binding.mk.injEq, String.ofList_inj, bare,
        beq_true_eq_iff, eq_comm]
      simp [nameless]

theorem parse_eq_iff (assignment : String)
    : parse assignment = (keptParts assignment).filterMap binding?
      ↔ ∀ pair ∈ rawPairs assignment,
          withoutParens pair.name = pair.name
          ∧ (pair.name ≠ []
            → withoutParens pair.value = "true".toList
            → pair.value = "true".toList) := by
  rw [parse, keptParts_eq, List.filterMap_map,
    filterMap_eq_filterMap_iff (f := binding?) (g := binding? ∘ bare)
      fun _ missing => binding?_bare_of_none missing]
  simp only [Function.comp_apply, binding?_eq_bare_iff]

end Assignment

namespace Outcome

open Assignment

/-- Both ways tell that no assignment exists on the same assignments exactly when no value becomes
the word for falsehood without anything else telling so.
-/
theorem isUnsatisfiable_iff_iff (rule : UnsatRule) (assignment : String)
    : (isUnsatisfiable rule assignment = true
        ↔ assignment = "(,false)"
          ∨ rule = .anyFalse ∧ ∃ pair ∈ keptParts assignment, pair.value = "false".toList)
      ↔ (rule = .anyFalse
        → assignment ≠ sentinel
        → ∀ pair ∈ rawPairs assignment,
            withoutParens pair.value = "false".toList
            → ∃ other ∈ rawPairs assignment, other.value = "false".toList) := by
  have stays : ∀ pair ∈ rawPairs assignment,
      pair.value = "false".toList → withoutParens pair.value = "false".toList := by
    intro pair _ same
    rw [same]
    decide
  have reads : isUnsatisfiable rule assignment = true
      ↔ assignment = sentinel
        ∨ rule = .anyFalse ∧ ∃ pair ∈ rawPairs assignment, pair.value = "false".toList := by
    cases rule <;> simp [isUnsatisfiable, boolText]
  rw [reads, keptParts_eq]
  simp only [List.mem_map, exists_exists_and_eq_and, bare]
  constructor
  · intro same legacy other pair member falsehood
    rcases same.mpr (.inr ⟨legacy, pair, member, falsehood⟩) with isSentinel | ⟨_, found⟩
    · exact absurd isSentinel other
    · exact found
  · intro falsehoods
    refine or_congr_right' fun other => and_congr_right fun legacy => ?_
    constructor
    · rintro ⟨pair, member, falsehood⟩
      exact ⟨pair, member, stays pair member falsehood⟩
    · rintro ⟨pair, member, falsehood⟩
      exact falsehoods legacy other pair member falsehood

/-- Two choices between verdicts are the same when they choose alike and have the same bindings. -/
theorem ite_eq_ite_iff {p q : Prop} [Decidable p] [Decidable q] {first second : List Binding}
    : ((if p then unsatisfiable first else satisfiable first)
        = if q then unsatisfiable second else satisfiable second)
      ↔ (p ↔ q) ∧ first = second := by
  by_cases hp : p <;> by_cases hq : q <;> simp [hp, hq]

theorem ofResponse_assignment_eq_written_iff (rule : UnsatRule) (assignment : String)
    : ofResponse rule ⟨some assignment, none⟩ = written rule ⟨some assignment, none⟩
      ↔ ReadsAlike rule assignment := by
  simp only [ofResponse, written, filter_map_eq_filterMap_binding?]
  rw [ite_eq_ite_iff, isUnsatisfiable_iff_iff rule assignment, parse_eq_iff assignment]
  constructor
  · rintro ⟨falsehoods, others⟩
    exact ⟨fun pair member => (others pair member).1, fun pair member => (others pair member).2,
      falsehoods⟩
  · rintro ⟨names, truths, falsehoods⟩
    exact ⟨falsehoods, fun pair member => ⟨names pair member, truths pair member⟩⟩

/-- Reading comes to the outcome of the written procedure exactly where there is an error, or no
assignment, or one in which parentheses inside the tokens make no difference.
-/
theorem ofResponse_eq_written_iff (rule : UnsatRule) (response : Response)
    : ofResponse rule response = written rule response
      ↔ response.error ≠ none
        ∨ ∀ assignment, response.assignment = some assignment → ReadsAlike rule assignment := by
  obtain ⟨assignment?, error?⟩ := response
  cases error? with
  | some message => simp [ofResponse, written]
  | none =>
      cases assignment? with
      | none => simp [ofResponse, written, noAnswer]
      | some assignment => simp [ofResponse_assignment_eq_written_iff]

/-- A parenthesis inside a token can hide the word for falsehood, and with it that there is no
assignment.
-/
theorem ofResponse_ne_written
    : ofResponse .anyFalse ⟨some "(a,(false)", none⟩ = .satisfiable [⟨"a", false⟩]
      ∧ written .anyFalse ⟨some "(a,(false)", none⟩ = .unsatisfiable [⟨"a", false⟩] := by
  decide

end Outcome

end SatClient
