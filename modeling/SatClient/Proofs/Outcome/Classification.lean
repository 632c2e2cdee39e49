import SatClient.Outcome.Basic
import SatClient.Proofs.Solver.Encoding

/-! What an assignment is taken for. One that was written from bindings is never mistaken for the
reserved string, and means these bindings.
-/

namespace SatClient

open Text

-----------------------------------------------------------------------------------------
-- Written assignments
-----------------------------------------------------------------------------------------

namespace Assignment

theorem rawPairs_sentinel : rawPairs sentinel = [⟨[], boolText false⟩] := by
  decide

/-- The reserved string has a pair without a name, which no written assignment has. -/
theorem render_ne_sentinel {bindings : List Binding}
    (encodable : ∀ binding ∈ bindings, IsEncodable binding.name)
    : render bindings ≠ sentinel := by
  intro same
  have pairs := rawPairs_render encodable
  rw [same, rawPairs_sentinel] at pairs
  have nameless : RawPair.mk [] (boolText false)
      ∈ bindings.map fun binding => ⟨binding.name.toList, boolText binding.value⟩ := by
    rw [← pairs]
    exact List.mem_singleton_self _
  obtain ⟨binding, member, found⟩ := List.mem_map.mp nameless
  exact (encodable binding member).1 (String.toList_eq_nil_iff.mp (RawPair.mk.inj found).1)

theorem any_false_rawPairs_render {bindings : List Binding}
    (encodable : ∀ binding ∈ bindings, IsEncodable binding.name)
    : (rawPairs (render bindings)).any (·.value == boolText false)
      = decide (∃ binding ∈ bindings, binding.value = false) := by
  rw [rawPairs_render encodable, List.any_map, Bool.eq_iff_iff, decide_eq_true_eq,
    List.any_eq_true]
  simp [boolText_inj]

end Assignment

namespace Outcome

open Assignment (IsEncodable)

/-- A written assignment means its bindings. Only the rule that looks for the value `false` takes
it for a sign that there is no assignment, and only where a binding has this value.
-/
theorem ofResponse_render {bindings : List Binding}
    (encodable : ∀ binding ∈ bindings, IsEncodable binding.name)
    : ofResponse .sentinel ⟨some (Assignment.render bindings), none⟩ = .satisfiable bindings
      ∧ ofResponse .anyFalse ⟨some (Assignment.render bindings), none⟩
        = if ∃ binding ∈ bindings, binding.value = false then .unsatisfiable bindings
          else .satisfiable bindings := by
  have notSentinel : (Assignment.render bindings == Assignment.sentinel) = false :=
    beq_eq_false_iff_ne.mpr (Assignment.render_ne_sentinel encodable)
  simp [ofResponse, isUnsatisfiable, notSentinel, Assignment.parse_render encodable,
    Assignment.any_false_rawPairs_render encodable]

theorem ofResponse_render_parenthesis
    : (∀ binding ∈ [Binding.mk "f(x)" true, ⟨"y)", false⟩], IsEncodable binding.name)
      ∧ ofResponse .anyFalse ⟨some "(f(x),true) (y),false)", none⟩
        = .unsatisfiable [⟨"f(x)", true⟩, ⟨"y)", false⟩] := by
  have encodable
      : ∀ binding ∈ [Binding.mk "f(x)" true, ⟨"y)", false⟩], IsEncodable binding.name := by
    simp [IsEncodable]
  exact ⟨encodable, (ofResponse_render encodable).2⟩

end Outcome

end SatClient
