import Mathlib.Data.List.DropRight
import SatClient.Formula.Token
import SatClient.Proofs.Text.Splitting
import SatClient.Solver.Assignment

/-! Assignments written as texts and read again. What is read from any text at all has names that
are not empty, hold no blank and no comma, and do not start with an opening parenthesis, and with
such names bindings come back as they were. So these are the only ones that do, and a text written
anew from what is read of it is a normal form.
-/

namespace SatClient.Assignment

open Text

-----------------------------------------------------------------------------------------
-- Tokens
-----------------------------------------------------------------------------------------

theorem pairOf?_eq_some_iff {token : List Char} {pair : RawPair}
    : pairOf? token = some pair
      ↔ stripParens token = pair.name ++ ',' :: pair.value
        ∧ ',' ∉ pair.name
        ∧ ',' ∉ pair.value := by
  obtain ⟨name, value⟩ := pair
  simp only [pairOf?, Option.bind_eq_bind, Option.bind_eq_some_iff, Prod.exists,
    splitFirst?_eq_some_iff]
  constructor
  · rintro ⟨before, after, ⟨cut, absent⟩, single⟩
    split at single
    · cases single
    · rename_i noMore
      cases single
      exact ⟨cut, absent, by simpa using noMore⟩
  · rintro ⟨cut, absent, single⟩
    exact ⟨name, value, ⟨cut, absent⟩, by simp [single]⟩

/-- A token is cut at all of its commas, and kept where that leaves two parts. -/
theorem pairOf?_eq_split (token : List Char)
    : pairOf? token
      = match (stripParens token).splitOn ',' with
        | [name, value] => some ⟨name, value⟩
        | _ => none := by
  ext pair
  rw [pairOf?_eq_some_iff, ← splitOn_eq_pair_iff]
  rcases (stripParens token).splitOn ',' with _ | ⟨name, _ | ⟨value, _ | ⟨third, rest⟩⟩⟩
  · simp
  · simp
  · cases pair
    simp
  · simp

theorem not_mem_boolText {c : Char} (value : Bool)
    (absent : c ∉ "true".toList ∧ c ∉ "false".toList)
    : c ∉ boolText value := by
  cases value
  · exact absent.2
  · exact absent.1

theorem boolText_inj {a b : Bool} : boolText a = boolText b ↔ a = b := by
  revert a b
  decide

/-- A closing parenthesis is all that is taken off behind a truth value. -/
theorem dropEndWhile_boolText (front : List Char) (value : Bool)
    : dropEndWhile (· == ')') (front ++ (boolText value ++ [')'])) = front ++ boolText value := by
  have last : ∃ word, boolText value = word ++ ['e'] := by
    cases value
    · exact ⟨"fals".toList, by decide⟩
    · exact ⟨"tru".toList, by decide⟩
  obtain ⟨word, same⟩ := last
  simp [dropEndWhile, same]

theorem stripParens_token {binding : Binding} (start : binding.name.toList.head? ≠ some '(')
    : stripParens (token binding) = binding.name.toList ++ ',' :: boolText binding.value := by
  have kept (rest : List Char)
      : (binding.name.toList ++ ',' :: rest).dropWhile (· == '(')
        = binding.name.toList ++ ',' :: rest := by
    cases same : binding.name.toList with
    | nil => rfl
    | cons c name =>
        have other : c ≠ '(' := by simpa [same] using start
        simp [other]
  rw [stripParens, token, List.dropWhile_cons_of_pos (by decide), kept,
    ← List.singleton_append (l := _ ++ [')']), ← List.append_assoc, dropEndWhile_boolText,
    List.append_assoc, List.singleton_append]

theorem pairOf?_token {binding : Binding} (encodable : IsEncodable binding.name)
    : pairOf? (token binding) = some ⟨binding.name.toList, boolText binding.value⟩ := by
  obtain ⟨_, _, noComma, start⟩ := encodable
  exact pairOf?_eq_some_iff.mpr
    ⟨stripParens_token start, noComma, not_mem_boolText _ (by decide)⟩

theorem not_mem_token {binding : Binding} (encodable : IsEncodable binding.name)
    : ' ' ∉ token binding := by
  have word := not_mem_boolText (c := ' ') binding.value (by decide)
  simp [token, encodable.2.1, word]

-----------------------------------------------------------------------------------------
-- Bindings that come back
-----------------------------------------------------------------------------------------

/-- The pairs in a written assignment are its bindings, one token for each. -/
theorem rawPairs_render {bindings : List Binding}
    (encodable : ∀ binding ∈ bindings, IsEncodable binding.name)
    : rawPairs (render bindings)
      = bindings.map fun binding => ⟨binding.name.toList, boolText binding.value⟩ := by
  rw [rawPairs, pairsOf, render, String.toList_ofList]
  by_cases none : bindings = []
  · rw [none]
    rfl
  · have apart : ∀ piece ∈ bindings.map token, ' ' ∉ piece := by
      intro piece member
      obtain ⟨binding, inside, rfl⟩ := List.mem_map.mp member
      exact not_mem_token (encodable binding inside)
    rw [List.splitOn_intercalate ' ' apart (by simpa using none), List.filterMap_map,
      ← List.filterMap_eq_map]
    exact List.filterMap_congr fun binding member => pairOf?_token (encodable binding member)

theorem binding?_boolText {binding : Binding} (named : binding.name ≠ "")
    : binding? ⟨binding.name.toList, boolText binding.value⟩ = some binding := by
  have same : (boolText binding.value == boolText true) = binding.value := by
    cases binding.value <;> decide
  simp [binding?, named, same]

theorem parse_render {bindings : List Binding}
    (encodable : ∀ binding ∈ bindings, IsEncodable binding.name)
    : parse (render bindings) = bindings := by
  rw [parse, rawPairs_render encodable, List.filterMap_map]
  conv_rhs => rw [← List.filterMap_some (l := bindings)]
  exact List.filterMap_congr fun binding member => binding?_boolText (encodable binding member).1

-----------------------------------------------------------------------------------------
-- What any text reads as
-----------------------------------------------------------------------------------------

theorem mem_rawPairs_iff {assignment : String} {pair : RawPair}
    : pair ∈ rawPairs assignment
      ↔ ∃ token ∈ assignment.toList.splitOn ' ', pairOf? token = some pair :=
  List.mem_filterMap

theorem mem_of_mem_stripParens {c : Char} {token : List Char} (member : c ∈ stripParens token)
    : c ∈ token := by
  rw [← List.takeWhile_append_dropWhile (p := (· == '(')) (l := token),
    ← List.rdropWhile_append_rtakeWhile (p := (· == ')')) (l := token.dropWhile _)]
  exact List.mem_append_right _ (List.mem_append_left _ member)

theorem head?_stripParens (token : List Char) : (stripParens token).head? ≠ some '(' := by
  intro starts
  have inner : (token.dropWhile (· == '(')).head? = some '(' := by
    have same :=
      List.rdropWhile_append_rtakeWhile (p := (· == ')')) (l := token.dropWhile (· == '('))
    rw [← same, List.head?_append, show (List.rdropWhile _ _).head? = some '(' from starts,
      Option.some_or]
  have ends := List.head?_dropWhile_not (· == '(') token
  simp [inner] at ends

theorem isEncodable_of_mem_rawPairs {assignment : String} {pair : RawPair}
    (member : pair ∈ rawPairs assignment) (named : pair.name ≠ [])
    : IsEncodable (String.ofList pair.name) := by
  obtain ⟨token, piece, found⟩ := mem_rawPairs_iff.mp member
  obtain ⟨stripped, noComma, _⟩ := pairOf?_eq_some_iff.mp found
  rw [IsEncodable, String.toList_ofList]
  refine ⟨by simpa using named, ?_, noComma, ?_⟩
  · intro blank
    have inside : ' ' ∈ stripParens token := by
      rw [stripped]
      exact List.mem_append_left _ blank
    exact not_mem_of_mem_splitOn piece (mem_of_mem_stripParens inside)
  · intro starts
    apply head?_stripParens token
    rw [stripped]
    cases same : pair.name with
    | nil => exact absurd same named
    | cons c name =>
        rw [same] at starts
        exact starts

/-- Every name that is read from a text can be written. -/
theorem isEncodable_of_mem_parse {assignment : String} {binding : Binding}
    (member : binding ∈ parse assignment)
    : IsEncodable binding.name := by
  obtain ⟨pair, raw, found⟩ := List.mem_filterMap.mp member
  rw [binding?] at found
  split at found
  · cases found
  · rename_i named
    cases found
    exact isEncodable_of_mem_rawPairs raw (by simpa using named)

theorem isEncodable_of_isAtomName {name : String} (atom : Token.IsAtomName name.toList)
    : IsEncodable name := by
  have passes := atom.continues
  refine ⟨?_, fun blank => ?_, fun comma => ?_, fun opening => ?_⟩
  · rintro rfl
    obtain ⟨_, _, same, _⟩ := atom
    cases same
  · exact absurd (passes _ blank) (by decide)
  · exact absurd (passes _ comma) (by decide)
  · exact absurd (passes _ (List.mem_of_mem_head? opening)) (by decide)

/-- Bindings come back from their text exactly when all their names can be written, as those of
variables can.
-/
theorem parse_render_eq_iff (bindings : List Binding)
    : (parse (render bindings) = bindings ↔ ∀ binding ∈ bindings, IsEncodable binding.name)
      ∧ ((∀ binding ∈ bindings, Token.IsAtomName binding.name.toList)
        → parse (render bindings) = bindings) := by
  refine ⟨⟨?_, parse_render⟩, ?_⟩
  · intro same binding member
    rw [← same] at member
    exact isEncodable_of_mem_parse member
  · intro atoms
    exact parse_render fun binding member => isEncodable_of_isAtomName (atoms binding member)

/-- Parentheses are harmless in a name, but not in front of it. -/
example
    : parse (render [⟨"f(x)", true⟩, ⟨"y))", false⟩]) = [⟨"f(x)", true⟩, ⟨"y))", false⟩]
      ∧ parse (render [⟨"(x", true⟩]) = [⟨"x", true⟩] := by
  decide

-----------------------------------------------------------------------------------------
-- Normal forms
-----------------------------------------------------------------------------------------

/-- A text written anew from what is read of it. -/
def normalize (assignment : String) : String := render (parse assignment)

theorem parse_normalize (assignment : String) : parse (normalize assignment) = parse assignment :=
  parse_render fun _ member => isEncodable_of_mem_parse member

/-- Writing texts anew keeps apart what is read differently, and nothing else. -/
theorem normalize_eq_normalize_iff {first second : String}
    : normalize first = normalize second ↔ parse first = parse second := by
  refine ⟨fun same => ?_, congrArg render⟩
  rw [← parse_normalize first, same, parse_normalize]

/-- Bindings are read from some text exactly when their names can be written. -/
theorem exists_parse_eq_iff {bindings : List Binding}
    : (∃ assignment, parse assignment = bindings)
      ↔ ∀ binding ∈ bindings, IsEncodable binding.name := by
  constructor
  · rintro ⟨assignment, rfl⟩ binding member
    exact isEncodable_of_mem_parse member
  · intro encodable
    exact ⟨render bindings, parse_render encodable⟩

/-- Reading is a normalization: a text may be written anew from what is read of it, which reads the
same and stays as it is when that is done again. Every name that is read can be written, and all
bindings with such names are read from some text.
-/
theorem parse_normalizes (assignment : String)
    : (∀ binding ∈ parse assignment, IsEncodable binding.name)
      ∧ parse (render (parse assignment)) = parse assignment
      ∧ normalize (normalize assignment) = normalize assignment
      ∧ (∀ other, normalize assignment = normalize other ↔ parse assignment = parse other)
      ∧ ∀ bindings,
          (∃ source, parse source = bindings)
          ↔ ∀ binding ∈ bindings, IsEncodable binding.name := by
  have again : parse (normalize assignment) = parse assignment := parse_normalize assignment
  refine ⟨fun _ member => isEncodable_of_mem_parse member, again, ?_, fun other => ?_,
    fun bindings => exists_parse_eq_iff⟩
  · exact normalize_eq_normalize_iff.mpr again
  · exact normalize_eq_normalize_iff

/-- What is no token is dropped, a value that is no truth value reads as false, and the reserved
string leaves nothing behind.
-/
example
    : normalize "((a,true))  b,yes (,false) (c,true,d)" = "(a,true) (b,false)"
      ∧ normalize sentinel = "" := by
  decide

end SatClient.Assignment
