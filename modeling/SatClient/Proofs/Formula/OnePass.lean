import Mathlib.Data.List.Basic
import SatClient.Proofs.Formula.EarliestFault

/-! The verdict on tokens in one pass. The recognizer by binding strength and the scan from left
to right say the same about every list of tokens: which token is refused and what was expected in
its place, which parenthesis stays open, or all variables, each where it appears first.
-/

namespace SatClient

-----------------------------------------------------------------------------------------
-- Order of first appearance
-----------------------------------------------------------------------------------------

/-- Names in order of their first appearance in a list: those of the list and no others, each
before those that appear first behind it. No name is among them twice, as none appears first
behind itself.
-/
structure InOrderOfAppearance (names all : List String) : Prop where
  members : ∀ name, name ∈ names ↔ name ∈ all
  order : names.Pairwise fun first second => all.idxOf first < all.idxOf second

theorem mem_distinct_go {name : String} (seen all : List String)
    : name ∈ distinct.go seen all ↔ name ∈ all ∧ name ∉ seen := by
  induction all generalizing seen with
  | nil => simp [distinct.go]
  | cons first rest ih =>
      rw [distinct.go]
      split
      next known =>
        rw [ih]
        constructor
        · rintro ⟨later, new⟩
          exact ⟨List.mem_cons_of_mem first later, new⟩
        · rintro ⟨member, new⟩
          rcases List.mem_cons.mp member with rfl | later
          · exact absurd known new
          · exact ⟨later, new⟩
      next unknown =>
        rw [List.mem_cons, ih, List.mem_cons, List.mem_cons]
        constructor
        · rintro (rfl | ⟨later, new⟩)
          · exact ⟨.inl rfl, unknown⟩
          · exact ⟨.inr later, fun known => new (.inr known)⟩
        · rintro ⟨rfl | later, new⟩
          · exact .inl rfl
          · by_cases same : name = first
            · exact .inl same
            · exact .inr ⟨later, fun known => known.elim same new⟩

/-- The names that were not seen before come in the order of their first places, by induction on
the list. One more name in front moves all other first places by one.
-/
theorem pairwise_idxOf_distinct_go (seen all : List String)
    : (distinct.go seen all).Pairwise fun first second => all.idxOf first < all.idxOf second := by
  induction all generalizing seen with
  | nil => exact .nil
  | cons name rest ih =>
      have later {seen : List String} {other : String} (known : name ∈ seen)
          (member : other ∈ distinct.go seen rest)
          : (name :: rest).idxOf other = rest.idxOf other + 1 := by
        refine List.idxOf_cons_ne rest fun same => ?_
        exact ((mem_distinct_go seen rest).mp member).2 (same ▸ known)
      have shifted {seen : List String} (known : name ∈ seen)
          : (distinct.go seen rest).Pairwise fun first second =>
              (name :: rest).idxOf first < (name :: rest).idxOf second := by
        refine (ih seen).imp_of_mem fun before behind less => ?_
        rw [later known before, later known behind]
        exact Nat.succ_lt_succ less
      rw [distinct.go]
      split
      next known => exact shifted known
      next unknown =>
        refine .cons (fun other member => ?_) (shifted List.mem_cons_self)
        rw [List.idxOf_cons_self, later List.mem_cons_self member]
        exact Nat.succ_pos _

/-- The distinct names of a list stand in the order of their first appearance. -/
theorem inOrderOfAppearance_distinct (all : List String)
    : InOrderOfAppearance (distinct all) all where
  members name := by simp [distinct, mem_distinct_go]
  order := pairwise_idxOf_distinct_go [] all

-----------------------------------------------------------------------------------------
-- The verdict
-----------------------------------------------------------------------------------------

namespace Scan

/-- The names that a scan comes to are those of the tokens, in order of first appearance. -/
theorem atoms_of_check {tokens : List PlacedToken} {checked : Checked}
    (passed : check tokens = .ok checked)
    : checked.atoms = distinct (atomsOf (tokens.map PlacedToken.token)) := by
  obtain ⟨last, _, ended⟩ := exists_of_bind_eq_ok passed
  obtain ⟨_, _, done⟩ := exists_of_bind_eq_ok ended
  cases done
  rfl

/-- No scan ends at a token that does not fit. -/
theorem finish_ne_unexpectedToken (state : State) (found : Token) (offset : Nat)
    (expected : Expectation)
    : finish state ≠ .error (.unexpectedToken found offset expected) := by
  unfold finish
  split <;> simp

/-- A token that does not fit is the one at which the scan stops, and is reported as it is. -/
theorem exists_refused_of_check {tokens : List PlacedToken} {found : Token} {offset : Nat}
    {expected : Expectation}
    (failed : check tokens = .error (.unexpectedToken found offset expected))
    : ∃ front rest state,
        tokens = front ++ ⟨found, offset⟩ :: rest
        ∧ front.foldlM step .initial = .ok state
        ∧ step state ⟨found, offset⟩ = .error (.unexpectedToken found offset expected) := by
  rcases check_eq_error failed with refused | ⟨last, _, ended⟩
  · obtain ⟨front, next, rest, state, same, run, refusal, stopped⟩ := foldlM_eq_error refused
    cases refusal with
    | noOperand => exact ⟨front, rest, _, same, foldlM_eq_ok_iff.mpr run, stopped⟩
    | noOperator => exact ⟨front, rest, _, same, foldlM_eq_ok_iff.mpr run, stopped⟩
  · exact absurd ended (finish_ne_unexpectedToken last found offset expected)

end Scan

theorem checkTokens_of_ne_nil {tokens : List PlacedToken} (nonempty : tokens ≠ [])
    : checkTokens tokens = Scan.check tokens := by
  cases tokens with
  | nil => exact absurd rfl nonempty
  | cons next rest => exact checkTokens_cons next rest

/-- Tokens and the texts that they are read from are checked as by the scan in one pass. What
passes has the variables of the tokens in order of their first appearance; a token that does not
fit is the first one that the scan does not take, and is reported with its own text and offset.
-/
theorem checkTokens_eq_scan {tokens : List PlacedToken} (nonempty : tokens ≠ [])
    : checkTokens tokens = Scan.check tokens
      ∧ (∀ text : String,
          Lexer.tokenize text.toList = .ok tokens → checkText text = Scan.check tokens)
      ∧ (∀ checked,
          checkTokens tokens = .ok checked
          → InOrderOfAppearance checked.atoms (atomsOf (tokens.map PlacedToken.token)))
      ∧ ∀ found offset expected,
          checkTokens tokens = .error (.unexpectedToken found offset expected)
          → ∃ front rest state,
              tokens = front ++ ⟨found, offset⟩ :: rest
              ∧ front.foldlM Scan.step .initial = .ok state
              ∧ Scan.step state ⟨found, offset⟩
                = .error (.unexpectedToken found offset expected) := by
  have scanned := checkTokens_of_ne_nil nonempty
  refine ⟨scanned, ?_, ?_, ?_⟩
  · intro text read
    rw [checkText_of_tokenize read, scanned]
  · intro checked passed
    rw [scanned] at passed
    rw [Scan.atoms_of_check passed]
    exact inOrderOfAppearance_distinct _
  · intro found offset expected failed
    rw [scanned] at failed
    exact Scan.exists_refused_of_check failed

/-- A negation sign where a parenthesis is open and an operator is due, and a variable that
appears twice.
-/
theorem checkTokens_eq_scan_negation
    : Lexer.tokenize "(a ~b".toList
        = .ok [⟨.openParen, 0⟩, ⟨.atom "a", 1⟩, ⟨.negation, 3⟩, ⟨.atom "b", 4⟩]
      ∧ checkText "(a ~b" = .error (.unexpectedToken .negation 3 .closeOrOperator)
      ∧ checkTokens
          [⟨.atom "b", 0⟩, ⟨.conjunction, 2⟩, ⟨.atom "a", 4⟩, ⟨.disjunction, 6⟩, ⟨.atom "b", 8⟩]
        = .ok ⟨["b", "a"]⟩
      ∧ InOrderOfAppearance ["b", "a"] ["b", "a", "b"] := by
  have valid : Layout.Valid
      ⟨[⟨[], .openParen⟩, ⟨[], .atom "a"⟩, ⟨[' '], .negation⟩, ⟨[], .atom "b"⟩], []⟩ := by
    refine ⟨⟨by decide, ?_, by simp [Separated, Token.IsAtom]⟩, rfl⟩
    simp only [List.forall_mem_cons]
    exact ⟨trivial, ⟨'a', [], rfl, rfl, rfl⟩, trivial, ⟨'b', [], rfl, rfl, rfl⟩, by simp⟩
  have read : Lexer.tokenize "(a ~b".toList
      = .ok [⟨.openParen, 0⟩, ⟨.atom "a", 1⟩, ⟨.negation, 3⟩, ⟨.atom "b", 4⟩] := valid.tokenize
  have refused := (checkTokens_eq_scan (List.cons_ne_nil _ _)).2.1 "(a ~b" read
  have passed := @checkTokens_eq_scan
    [⟨.atom "b", 0⟩, ⟨.conjunction, 2⟩, ⟨.atom "a", 4⟩, ⟨.disjunction, 6⟩, ⟨.atom "b", 8⟩]
    (List.cons_ne_nil _ _)
  exact ⟨read, refused, passed.1, passed.2.2.1 ⟨["b", "a"]⟩ passed.1⟩

end SatClient
