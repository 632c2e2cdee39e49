import Mathlib.Logic.Relation
import SatClient.Outcome.Basic
import SatClient.Proofs.Solver.Encoding

/-! Each token of an assignment is read on its own: neither the tokens beside it nor the number of
blanks between them make a difference to its pair. So a token without a pair can be put in or taken
out anywhere, and an assignment has the value `false` when one of its tokens has it alone.
-/

namespace SatClient

open Text

namespace Assignment

-----------------------------------------------------------------------------------------
-- Texts side by side
-----------------------------------------------------------------------------------------

/-- A blank between two texts is the end of a token and the start of another one. -/
theorem rawPairs_append_blank (first second : String)
    : rawPairs (first ++ " " ++ second) = rawPairs first ++ rawPairs second := by
  have cut : (first ++ " " ++ second).toList = first.toList ++ ' ' :: second.toList := by
    simp
  simp only [rawPairs, pairsOf, cut, List.splitOn_append_cons_self, List.filterMap_append]

theorem parse_append_blank (first second : String)
    : parse (first ++ " " ++ second) = parse first ++ parse second := by
  rw [parse, rawPairs_append_blank, List.filterMap_append, parse, parse]

-----------------------------------------------------------------------------------------
-- Single tokens
-----------------------------------------------------------------------------------------

theorem rawPairs_eq_toList {token : String} (solid : ' ' ∉ token.toList)
    : rawPairs token = (pairOf? token.toList).toList := by
  rw [rawPairs, pairsOf, List.splitOn_eq_singleton solid, List.filterMap_cons]
  cases pairOf? token.toList <;> rfl

/-- A token alone has the pair of its two parts, or none if there are fewer or more. -/
theorem rawPairs_token {token : String} (solid : ' ' ∉ token.toList)
    : rawPairs token
      = match (stripParens token.toList).splitOn ',' with
        | [name, value] => [⟨name, value⟩]
        | _ => [] := by
  rw [rawPairs_eq_toList solid, pairOf?_eq_split]
  rcases (stripParens token.toList).splitOn ',' with _ | ⟨name, _ | ⟨value, _ | ⟨third, rest⟩⟩⟩
  all_goals rfl

/-- The pairs of an assignment are those of its tokens, each alone. -/
theorem rawPairs_eq_flatMap (assignment : String)
    : rawPairs assignment
      = (assignment.toList.splitOn ' ').flatMap fun token => rawPairs (String.ofList token) := by
  rw [rawPairs, pairsOf, List.filterMap_eq_flatMap_toList]
  refine List.flatMap_congr fun token member => ?_
  have solid : ' ' ∉ (String.ofList token).toList := by
    rw [String.toList_ofList]
    exact not_mem_of_mem_splitOn member
  rw [rawPairs_eq_toList solid, String.toList_ofList]

-----------------------------------------------------------------------------------------
-- Tokens put in and taken out
-----------------------------------------------------------------------------------------

/-- A token that its commas do not cut into exactly two parts. The empty one is among them. -/
structure IsMalformed (token : String) : Prop where
  solid : ' ' ∉ token.toList
  parts : ((stripParens token.toList).splitOn ',').length ≠ 2

theorem IsMalformed.rawPairs_eq {token : String} (malformed : IsMalformed token)
    : rawPairs token = [] := by
  rw [rawPairs_token malformed.solid]
  split
  next parts => exact absurd (congrArg List.length parts) malformed.parts
  next => rfl

/-- Put a malformed token into a text where one of its tokens starts or ends. With the empty token
this is one more blank.
-/
inductive Padding : String → String → Prop
  | alone {token} (malformed : IsMalformed token) : Padding "" token
  | front {token text} (malformed : IsMalformed token) : Padding text (token ++ " " ++ text)
  | behind {token text} (malformed : IsMalformed token) : Padding text (text ++ " " ++ token)
  | between {token first second} (malformed : IsMalformed token)
    : Padding (first ++ " " ++ second) (first ++ " " ++ token ++ " " ++ second)

theorem Padding.rawPairs_eq {plain padded : String} (padding : Padding plain padded)
    : rawPairs plain = rawPairs padded := by
  cases padding with
  | alone malformed => exact malformed.rawPairs_eq.symm
  | front malformed => rw [rawPairs_append_blank, malformed.rawPairs_eq, List.nil_append]
  | behind malformed => rw [rawPairs_append_blank, malformed.rawPairs_eq, List.append_nil]
  | between malformed =>
      simp only [rawPairs_append_blank, malformed.rawPairs_eq, List.append_nil]

/-- Putting malformed tokens in and taking them out leaves all pairs, by induction on the changes.
-/
theorem rawPairs_of_eqvGen {plain padded : String}
    (padding : Relation.EqvGen Padding plain padded)
    : rawPairs plain = rawPairs padded := by
  induction padding with
  | rel plain padded padding => exact padding.rawPairs_eq
  | refl text => rfl
  | symm plain padded padding ih => exact ih.symm
  | trans first second third padding more ih also => exact ih.trans also

-----------------------------------------------------------------------------------------
-- The value `false`
-----------------------------------------------------------------------------------------

/-- A token of an assignment has the value `false` alone. -/
def HasFalseToken (assignment : String) : Prop :=
  ∃ token ∈ assignment.toList.splitOn ' ',
    ∃ pair ∈ rawPairs (String.ofList token), pair.value = "false".toList

instance (assignment : String) : Decidable (HasFalseToken assignment) :=
  inferInstanceAs (Decidable (∃ token ∈ assignment.toList.splitOn ' ', ∃ pair ∈ _, _))

theorem any_false_rawPairs (assignment : String)
    : (rawPairs assignment).any (·.value == boolText false)
      = decide (HasFalseToken assignment) := by
  rw [Bool.eq_iff_iff, decide_eq_true_eq, rawPairs_eq_flatMap]
  simp only [List.any_eq_true, beq_iff_eq, List.mem_flatMap]
  constructor
  · rintro ⟨pair, ⟨token, member, found⟩, isFalse⟩
    exact ⟨token, member, pair, found, isFalse⟩
  · rintro ⟨token, member, pair, found, isFalse⟩
    exact ⟨pair, ⟨token, member, found⟩, isFalse⟩

/-- Under the rule that looks for the value `false`, an assignment other than the reserved string is
judged by its tokens.
-/
theorem ofResponse_anyFalse {assignment : String} (other : assignment ≠ sentinel)
    : Outcome.ofResponse .anyFalse ⟨some assignment, none⟩
      = if HasFalseToken assignment then .unsatisfiable (parse assignment)
        else .satisfiable (parse assignment) := by
  have notSentinel : (assignment == sentinel) = false := beq_eq_false_iff_ne.mpr other
  simp [Outcome.ofResponse, Outcome.isUnsatisfiable, notSentinel, any_false_rawPairs]

-----------------------------------------------------------------------------------------
-- Tokens on their own
-----------------------------------------------------------------------------------------

/-- Tokens are read apart from each other. The pairs of two texts with a blank between are those of
the one and then those of the other; a token without exactly two parts has no pair, so that others
are kept in their order wherever such tokens or further blanks are put in or taken out; and what one
token says of falsehood it says in every text.
-/
theorem readsTokensApart
    : (∀ first second,
        rawPairs (first ++ " " ++ second) = rawPairs first ++ rawPairs second
        ∧ parse (first ++ " " ++ second) = parse first ++ parse second)
      ∧ (∀ token : String,
          ' ' ∉ token.toList
          → rawPairs token
            = match (stripParens token.toList).splitOn ',' with
              | [name, value] => [⟨name, value⟩]
              | _ => [])
      ∧ (∀ plain padded,
          Relation.EqvGen Padding plain padded
          → rawPairs plain = rawPairs padded ∧ parse plain = parse padded)
      ∧ ∀ assignment,
          assignment ≠ sentinel
          → Outcome.ofResponse .anyFalse ⟨some assignment, none⟩
            = if HasFalseToken assignment then .unsatisfiable (parse assignment)
              else .satisfiable (parse assignment) := by
  refine ⟨fun first second => ?_, fun token solid => rawPairs_token solid, ?_,
    fun assignment other => ofResponse_anyFalse other⟩
  · exact ⟨rawPairs_append_blank first second, parse_append_blank first second⟩
  · intro plain padded padding
    have same := rawPairs_of_eqvGen padding
    exact ⟨same, by rw [parse, parse, same]⟩

/-- A token with three parts and one more blank stand between two pairs, and are taken out. -/
theorem readsTokensApart_padded
    : Relation.EqvGen Padding "((a,true)  c,d,e (b),false)" "((a,true) (b),false)"
      ∧ parse "((a,true)  c,d,e (b),false)" = parse "((a,true) (b),false)"
      ∧ "((a,true) (b),false)" ≠ sentinel
      ∧ Outcome.ofResponse .anyFalse ⟨some "((a,true) (b),false)", none⟩
        = .unsatisfiable [⟨"a", true⟩, ⟨"b)", false⟩] := by
  have blank : Padding "((a,true) (b),false)" "((a,true)  (b),false)" :=
    @Padding.between "" "((a,true)" "(b),false)" ⟨by decide, by decide⟩
  have parts : Padding "((a,true)  (b),false)" "((a,true)  c,d,e (b),false)" :=
    @Padding.between "c,d,e" "((a,true) " "(b),false)" ⟨by decide, by decide⟩
  have padding := ((Relation.EqvGen.rel _ _ blank).trans _ _ _ (.rel _ _ parts)).symm
  have other : "((a,true) (b),false)" ≠ sentinel := by decide
  exact ⟨padding, (readsTokensApart.2.2.1 _ _ padding).2, other, readsTokensApart.2.2.2 _ other⟩

end Assignment

end SatClient
