import SatClient.Proofs.Formula.Spelling

/-! The texts that are formulas. A text is accepted exactly when it spells tokens that the
ambiguous grammar derives and that nest within the bound; one that is derived but nests deeper
is found too deep. Only parentheses count: negation signs and operators can be chained to any
length.
-/

namespace SatClient

/-- A check that fails early or late fails, one that passes passes both. -/
theorem isWellFormed_iff {text : String}
    : isWellFormed text = true
      ↔ ∃ placed,
          Lexer.tokenize text.toList = .ok placed ∧ (checkTokens placed).isOk = true := by
  rw [isWellFormed]
  cases read : Lexer.tokenize text.toList with
  | error fault => simp [checkText, read, Except.isOk, Except.toBool, bind, Except.bind]
  | ok placed => simp [checkText_of_tokenize read]

theorem isWellFormed_of_scan {text : String} {placed : List PlacedToken}
    (read : Lexer.tokenize text.toList = .ok placed)
    (scanned : placed.foldlM Scan.step .initial = .ok ⟨.operator, []⟩)
    : isWellFormed text = true :=
  isWellFormed_iff.mpr
    ⟨placed, read, checkTokens_isOk_iff.mpr (Scan.foldlM_eq_ok_iff.mp scanned)⟩

def Accepted (tokens : List Token) : Prop :=
  Derivable tokens ∧ NestsWithin maxDepth tokens

/-- A text is a formula exactly when it spells one. -/
theorem isWellFormed_iff_spells {text : String}
    : isWellFormed text = true ↔ ∃ tokens, Spells text.toList tokens ∧ Accepted tokens := by
  rw [isWellFormed_iff]
  constructor
  · rintro ⟨placed, read, passed⟩
    exact ⟨_, spells_iff.mpr ⟨placed, read, rfl⟩, checkTokens_isOk_iff_derivable.mp passed⟩
  · rintro ⟨tokens, spells, accepted⟩
    obtain ⟨placed, read, rfl⟩ := spells_iff.mp spells
    exact ⟨placed, read, checkTokens_isOk_iff_derivable.mpr accepted⟩

theorem isWellFormed_of_isAtomName {name : String} (named : Token.IsAtomName name.toList)
    : isWellFormed name = true := by
  obtain ⟨placed, read, single⟩ := spells_iff.mp (Spells.atom named)
  obtain ⟨next, rest, rfl, isAtom, nothing⟩ := List.map_eq_cons_iff.mp single
  cases List.map_eq_nil_iff.mp nothing
  have run : Scan.Run .initial [next] ⟨.operator, []⟩ :=
    .cons (.operand (isAtom ▸ .atom name)) .nil
  exact isWellFormed_of_scan read (Scan.foldlM_eq_ok_iff.mpr run)

/-- A text that spells tokens too deep for a formula is found too deep. -/
theorem checkText_eq_tooDeep {text : String} {placed : List PlacedToken}
    (read : Lexer.tokenize text.toList = .ok placed)
    (derivable : Derivable (placed.map PlacedToken.token))
    (deep : ¬ NestsWithin maxDepth (placed.map PlacedToken.token))
    : checkText text = .error .tooDeep := by
  rw [checkText_of_tokenize read]
  exact checkTokens_eq_tooDeep derivable deep

-----------------------------------------------------------------------------------------
-- Chains
-----------------------------------------------------------------------------------------

/-- Tokens form a formula exactly when the scan comes to its end, wherever they are placed.
-/
theorem accepted_map_iff {placed : List PlacedToken}
    : Accepted (placed.map PlacedToken.token) ↔ Scan.Run .initial placed ⟨.operator, []⟩ :=
  Scan.run_to_end_iff.symm

theorem exists_placed (tokens : List Token)
    : ∃ placed : List PlacedToken, placed.map PlacedToken.token = tokens :=
  ⟨tokens.map (⟨·, 0⟩), by simp [Function.comp_def]⟩

theorem accepted_negation_cons {tokens : List Token}
    : Accepted (.negation :: tokens) ↔ Accepted tokens := by
  obtain ⟨placed, rfl⟩ := exists_placed tokens
  have same : Accepted (.negation :: placed.map PlacedToken.token)
      ↔ Scan.Run .initial (⟨.negation, 0⟩ :: placed) ⟨.operator, []⟩ := by
    rw [← accepted_map_iff, List.map_cons]
  rw [same, accepted_map_iff]
  constructor
  · intro run
    cases run with
    | cons first others =>
        cases first with
        | negate => exact others
        | operand isOperand => cases isOperand
  · exact .cons .negate

/-- Two formulas with a binary operator between them are one. -/
theorem Accepted.join {left right : List Token} {operator : Token} (isBinary : operator.IsBinary)
    (first : Accepted left) (second : Accepted right)
    : Accepted (left ++ operator :: right) := by
  obtain ⟨before, rfl⟩ := exists_placed left
  obtain ⟨after, rfl⟩ := exists_placed right
  have connect : Scan.Advance ⟨.operator, []⟩ ⟨operator, 0⟩ .initial := .connect isBinary
  have run := (accepted_map_iff.mp first).append (.cons connect (accepted_map_iff.mp second))
  simpa using accepted_map_iff.mpr run

/-- A text after any number of negation signs. -/
def negatedText (count : Nat) (text : String) : String :=
  String.ofList (List.replicate count '~') ++ text

/-- A text followed by operators and further texts in turn. -/
def chainedText (text : String) : List (Token × String) → String
  | [] => text
  | (operator, operand) :: links => chainedText (text ++ operator.text ++ operand) links

/-- Negation signs in front make no difference, by induction on their number. -/
theorem isWellFormed_negatedText (count : Nat) (text : String)
    : isWellFormed (negatedText count text) = isWellFormed text := by
  induction count with
  | zero => simp [negatedText]
  | succ count ih =>
      rw [← ih, Bool.eq_iff_iff, isWellFormed_iff_spells, isWellFormed_iff_spells]
      have characters : (negatedText (count + 1) text).toList
          = '~' :: (negatedText count text).toList := by
        simp [negatedText, List.replicate_succ]
      rw [characters]
      constructor
      · rintro ⟨tokens, spells, accepted⟩
        obtain ⟨others, rfl, rest⟩ := spells_negation_cons.mp spells
        exact ⟨others, rest, accepted_negation_cons.mp accepted⟩
      · rintro ⟨tokens, spells, accepted⟩
        exact ⟨_, spells_negation_cons.mpr ⟨tokens, rfl, spells⟩,
          accepted_negation_cons.mpr accepted⟩

/-- Two formulas with the text of a binary operator between them are one. -/
theorem isWellFormed_join {left right : String} {operator : Token} (isBinary : operator.IsBinary)
    (first : isWellFormed left = true) (second : isWellFormed right = true)
    : isWellFormed (left ++ operator.text ++ right) = true := by
  obtain ⟨before, spellsLeft, acceptedLeft⟩ := isWellFormed_iff_spells.mp first
  obtain ⟨after, spellsRight, acceptedRight⟩ := isWellFormed_iff_spells.mp second
  have noAtom : ¬ operator.IsAtom := by
    rintro ⟨name, rfl⟩
    simp [Token.IsBinary] at isBinary
  refine isWellFormed_iff_spells.mpr ⟨_, ?_, acceptedLeft.join isBinary acceptedRight⟩
  simpa using spellsLeft.join noAtom spellsRight

/-- Formulas chained by binary operators are one, by induction on the links. -/
theorem isWellFormed_chainedText {text : String} {links : List (Token × String)}
    (first : isWellFormed text = true)
    (others : ∀ link ∈ links, link.1.IsBinary ∧ isWellFormed link.2 = true)
    : isWellFormed (chainedText text links) = true := by
  induction links generalizing text with
  | nil => exact first
  | cons link rest ih =>
      obtain ⟨isBinary, second⟩ := others link List.mem_cons_self
      exact ih (isWellFormed_join isBinary first second)
        fun other member => others other (List.mem_cons_of_mem link member)

/-- The texts that are accepted are those of the grammar within the bound on nesting. Texts of
the grammar beyond it are found too deep, and nothing bounds the length of chains.
-/
theorem isWellFormed_iff_grammar (text : String)
    : (isWellFormed text = true
        ↔ ∃ placed,
            Lexer.tokenize text.toList = .ok placed
            ∧ Derivable (placed.map PlacedToken.token)
            ∧ NestsWithin maxDepth (placed.map PlacedToken.token))
      ∧ (∀ placed,
          Lexer.tokenize text.toList = .ok placed
          → Derivable (placed.map PlacedToken.token)
          → ¬ NestsWithin maxDepth (placed.map PlacedToken.token)
          → checkText text = .error .tooDeep)
      ∧ (∀ count, isWellFormed (negatedText count text) = isWellFormed text)
      ∧ ∀ links,
          isWellFormed text = true
          → (∀ link ∈ links, link.1.IsBinary ∧ isWellFormed link.2 = true)
          → isWellFormed (chainedText text links) = true := by
  refine ⟨?_, ?_, fun count => isWellFormed_negatedText count text, ?_⟩
  · simp only [isWellFormed_iff, checkTokens_isOk_iff_derivable]
  · intro placed read derivable deep
    exact checkText_eq_tooDeep read derivable deep
  · intro links first others
    exact isWellFormed_chainedText first others

/-- A variable between some number of parentheses. -/
def nestedTokens : Nat → List Token
  | 0 => [.atom "a"]
  | depth + 1 => .openParen :: nestedTokens depth ++ [.closeParen]

/-- The text of a variable between some number of parentheses. -/
def nestedText : Nat → List Char
  | 0 => ['a']
  | depth + 1 => '(' :: nestedText depth ++ [')']

theorem spells_nestedText (depth : Nat) : Spells (nestedText depth) (nestedTokens depth) := by
  have noOpen : ¬ Token.openParen.IsAtom := by simp [Token.IsAtom]
  have noClose : ¬ Token.closeParen.IsAtom := by simp [Token.IsAtom]
  induction depth with
  | zero =>
      have named : Token.IsAtomName "a".toList := ⟨'a', [], rfl, rfl, rfl⟩
      exact Spells.atom named
  | succ depth ih =>
      have inner := ih.join noClose Spells.nil
      rw [List.append_nil] at inner
      exact Spells.join noOpen Spells.nil inner

theorem derivable_nestedTokens (depth : Nat) : Derivable (nestedTokens depth) := by
  induction depth with
  | zero => exact .atom "a"
  | succ depth ih => exact .parens ih

/-- The nested tokens start with all their opening parentheses, by induction on the depth. -/
theorem replicate_prefix_nestedTokens (depth : Nat)
    : List.replicate depth .openParen <+: nestedTokens depth := by
  induction depth with
  | zero => exact List.nil_prefix
  | succ depth ih =>
      rw [List.replicate_succ, nestedTokens, List.cons_append]
      exact List.cons_prefix_cons.mpr ⟨rfl, ih.trans (List.prefix_append _ _)⟩

/-- The nested tokens do not nest within a smaller bound. -/
theorem not_nestsWithin_nestedTokens {bound depth : Nat} (deep : bound < depth)
    : ¬ NestsWithin bound (nestedTokens depth) := by
  intro nests
  have within := nests _ (replicate_prefix_nestedTokens depth)
  simp only [List.count_replicate_self] at within
  have noClosing : (List.replicate depth Token.openParen).count .closeParen = 0 := by
    simp [List.count_replicate]
  omega

/-- A variable between 513 parentheses is found too deep, and three formulas chained by two
operators are one.
-/
theorem isWellFormed_iff_grammar_deep
    : checkText (String.ofList (nestedText 513)) = .error .tooDeep
      ∧ isWellFormed (chainedText "~T" [(.implication, "a"), (.equivalence, "(b | c)")]) = true := by
  constructor
  · obtain ⟨placed, read, same⟩ := spells_iff.mp (spells_nestedText 513)
    refine (isWellFormed_iff_grammar _).2.1 placed (by rw [String.toList_ofList, read]) ?_ ?_
    · rw [same]
      exact derivable_nestedTokens 513
    · rw [same]
      exact not_nestsWithin_nestedTokens (by decide)
  · have first : Layout.Valid ⟨[⟨[], .negation⟩, ⟨[], .truth⟩], []⟩ :=
      ⟨⟨by decide, by simp [Token.WellNamed], by simp [Separated, Token.IsAtom]⟩, rfl⟩
    have third : Layout.Valid
        ⟨[⟨[], .openParen⟩, ⟨[], .atom "b"⟩, ⟨[' '], .disjunction⟩, ⟨[' '], .atom "c"⟩,
          ⟨[], .closeParen⟩], []⟩ := by
      refine ⟨⟨by decide, ?_, by simp [Separated, Token.IsAtom]⟩, rfl⟩
      simp only [List.forall_mem_cons]
      exact ⟨trivial, ⟨'b', [], rfl, rfl, rfl⟩, trivial, ⟨'c', [], rfl, rfl, rfl⟩, trivial, by simp⟩
    refine (isWellFormed_iff_grammar "~T").2.2.2 _ (isWellFormed_of_scan first.tokenize rfl) ?_
    intro link member
    rcases List.mem_cons.mp member with rfl | member
    · exact ⟨by decide, isWellFormed_of_isAtomName ⟨'a', [], rfl, rfl, rfl⟩⟩
    · cases List.mem_singleton.mp member
      exact ⟨by decide, isWellFormed_of_scan third.tokenize rfl⟩

end SatClient
