import SatClient.Proofs.Text.Trimming
import SatClient.Proofs.Url.Authority
import SatClient.Solver.Endpoint

/-! The path of the service behind the path of a base URL. It stands where the slashes at the end of
the base URL were, unless it goes to a query or a fragment, or the path has more slashes there than
the text.
-/

namespace SatClient.Endpoint

open Text (dropEndWhile dropEndWhile_append dropEndWhile_eq_self_iff)
open Url (FaintTail IsBehind Path Place)
open Url.Path (Starts stem)

/-- The path of a place without the slashes at its end, and the path of the service behind it. -/
def servedPath (place : Place) : List Char :=
  dropEndWhile (· == '/') place.path.text ++ servicePath

variable {behind tail : List Char}

theorem starts_of_unmarked (apart : IsBehind behind) (noQuery : '?' ∉ behind)
    (noFragment : '#' ∉ behind)
    : Starts behind := by
  intro c first
  have member : c ∈ behind := List.mem_of_mem_head? first
  rcases Url.cases_of_endsAuthority (apart c first) with rfl | rfl | rfl | rfl
  · rfl
  · rfl
  · exact absurd member noQuery
  · exact absurd member noFragment

/-- The path of the service behind a text without a query and a fragment is one more segment. -/
theorem text_path_reaching_service (bare : Place) (starts : Starts behind)
    (noQuery : '?' ∉ behind) (noFragment : '#' ∉ behind)
    : (bare.reaching (behind ++ servicePath)).path.text = (stem behind).text ++ servicePath := by
  have noQuery' : '?' ∉ behind ++ servicePath :=
    List.not_mem_append noQuery (by decide)
  have noFragment' : '#' ∉ behind ++ servicePath :=
    List.not_mem_append noFragment (by decide)
  rw [Place.reaching_unmarked _ noQuery' noFragment']
  have parsed := Url.Path.parse_append_name "marina".toList starts (by decide)
    (by constructor <;> decide)
  exact (congrArg Path.text parsed).trans (by rw [Url.Path.text_append]; rfl)

/-- Where a query or a fragment takes the path of the service, the path stays as it is. -/
theorem text_path_ne_of_marked (bare : Place) (marked : '?' ∈ behind ∨ '#' ∈ behind)
    (more others : List Char)
    : (bare.reaching (behind ++ more)).path.text
      ≠ servedPath (bare.reaching (behind ++ others)) := by
  intro served
  have stays := (bare.reaching_marked marked).2
  rw [servedPath, stays, stays] at served
  have whole : dropEndWhile (· == '/') (bare.reaching behind).path.text
      = (bare.reaching behind).path.text := by
    refine dropEndWhile_eq_self_iff.mpr fun c last => ?_
    rw [served, List.getLast?_append_of_ne_nil _ (by decide)] at last
    obtain rfl : 'a' = c := Option.some.inj last
    rfl
  rw [whole] at served
  exact absurd (List.self_eq_append_right.mp served) (by decide)

/-- A text of faint characters that only the base URL has is missing in front of the path of the
service.
-/
theorem text_path_ne_of_dropped (bare : Place) (apart : IsBehind behind) {count : Nat}
    (some : behind ++ List.replicate count '/' ≠ []) (tailed : FaintTail tail)
    : (bare.reaching (behind ++ servicePath)).path.text
      ≠ servedPath (bare.reaching (behind ++ (List.replicate count '/' ++ tail))) := by
  by_cases marked : '?' ∈ behind ∨ '#' ∈ behind
  · exact text_path_ne_of_marked bare marked _ _
  intro served
  obtain ⟨noQuery, noFragment⟩ := not_or.mp marked
  have starts := starts_of_unmarked apart noQuery noFragment
  have starts' : Starts (behind ++ List.replicate count '/') :=
    starts_of_unmarked (apart.append (Url.isBehind_replicate count)) (by simp [noQuery])
      (by simp [noFragment])
  obtain ⟨longer, same, noSlash⟩ := Url.Path.text_parse_append_faint starts' some tailed
  obtain ⟨more, slashes⟩ := Url.Path.exists_parse_append_slashes starts count
  have base : (bare.reaching (behind ++ (List.replicate count '/' ++ tail))).path
      = stem (behind ++ List.replicate count '/' ++ tail) := by
    rw [same, ← List.append_assoc, Place.reaching_unmarked]
    · simp [noQuery, tailed.not_mem]
    · simp [noFragment, tailed.not_mem]
  have whole : dropEndWhile (· == '/') (stem (behind ++ List.replicate count '/' ++ tail)).text
      = (stem (behind ++ List.replicate count '/' ++ tail)).text := by
    refine dropEndWhile_eq_self_iff.mpr fun c last => ?_
    rw [← same] at noSlash
    have other : c ≠ '/' := by
      rintro rfl
      exact noSlash last
    simpa using other
  rw [text_path_reaching_service bare starts noQuery noFragment, servedPath, base, whole] at served
  rw [slashes, Url.Path.text_append, List.length_append, List.append_cancel_right served] at longer
  omega

/-- A text of faint characters that only the endpoint has stays in front of the path of the service.
-/
theorem text_path_ne_of_kept (bare : Place) (apart : IsBehind behind) (some : behind ≠ [])
    (tailed : FaintTail tail)
    : (bare.reaching (behind ++ (tail ++ servicePath))).path.text
      ≠ servedPath (bare.reaching behind) := by
  by_cases marked : '?' ∈ behind ∨ '#' ∈ behind
  · have differs := text_path_ne_of_marked bare marked (tail ++ servicePath) []
    rwa [List.append_nil] at differs
  intro served
  obtain ⟨noQuery, noFragment⟩ := not_or.mp marked
  have starts := starts_of_unmarked apart noQuery noFragment
  have starts' : Starts (behind ++ tail) := by
    intro c first
    rw [List.head?_append_of_ne_nil _ some] at first
    exact starts c first
  obtain ⟨longer, -, -⟩ := Url.Path.text_parse_append_faint starts some tailed
  have joined := text_path_reaching_service bare starts' (by simp [noQuery, tailed.not_mem])
    (by simp [noFragment, tailed.not_mem])
  rw [← List.append_assoc, joined, servedPath, Place.reaching_unmarked _ noQuery noFragment]
    at served
  have shorter := Text.length_dropEndWhile_le (· == '/') (Url.Path.parse behind).text
  rw [← List.append_cancel_right served] at shorter
  omega

/-- The path of the service takes the place of the slashes at the end exactly where no query and no
fragment is, and where one slash at the end is the only one there.
-/
theorem text_path_eq_servedPath_iff (bare : Place) (apart : IsBehind behind) (count : Nat)
    : (bare.reaching (behind ++ servicePath)).path.text
        = servedPath (bare.reaching (behind ++ List.replicate count '/'))
      ↔ (bare.reaching (behind ++ List.replicate count '/')).query = none
          ∧ (bare.reaching (behind ++ List.replicate count '/')).fragment = none
          ∧ ¬ ['/', '/'] <:+ (bare.reaching (behind ++ ['/'])).path.text := by
  by_cases marked : '?' ∈ behind ∨ '#' ∈ behind
  · have marked' : '?' ∈ behind ++ List.replicate count '/'
        ∨ '#' ∈ behind ++ List.replicate count '/' := by
      simpa using marked
    refine iff_of_false (text_path_ne_of_marked bare marked _ _) fun extensible => ?_
    exact (bare.reaching_marked marked').1 ⟨extensible.1, extensible.2.1⟩
  obtain ⟨noQuery, noFragment⟩ := not_or.mp marked
  have starts := starts_of_unmarked apart noQuery noFragment
  obtain ⟨more, slashes⟩ := Url.Path.exists_parse_append_slashes starts count
  have directory : (bare.reaching (behind ++ ['/'])).path.text = (stem behind).text ++ ['/'] := by
    have parsed := Url.Path.parse_append_name [] starts rfl Url.Path.stays_nil
    rw [Place.reaching_unmarked _ (by simp [noQuery]) (by simp [noFragment])]
    exact (congrArg Path.text parsed).trans (Url.Path.text_append _ _)
  rw [text_path_reaching_service bare starts noQuery noFragment, servedPath,
    Place.reaching_unmarked _ (by simp [noQuery]) (by simp [noFragment]), directory]
  dsimp only
  rw [slashes, Url.Path.text_append, Url.Path.text_replicate,
    dropEndWhile_append (by simp), List.append_cancel_right_eq, eq_comm, dropEndWhile_eq_self_iff]
  have ends : ['/', '/'] <:+ (stem behind).text ++ ['/']
      ↔ (stem behind).text.getLast? = some '/' := by
    rw [List.getLast?_eq_some_iff]
    exact exists_congr fun front => by
      rw [show front ++ ['/', '/'] = front ++ ['/'] ++ ['/'] by simp,
        List.append_cancel_right_eq, eq_comm]
  rw [ends]
  cases (stem behind).text.getLast? <;> simp

end SatClient.Endpoint
