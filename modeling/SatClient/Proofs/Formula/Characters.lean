import SatClient.Proofs.Formula.Neighbours
import SatClient.Proofs.Formula.Spans

/-! The characters of formulas. What may stand at a place of a formula depends on the characters
right beside it: a character starts a variable or goes on with one, is a constant apart from all
words, or is a symbol with the rest of its arrow around it.
-/

namespace SatClient

open Text

-----------------------------------------------------------------------------------------
-- Classes of characters
-----------------------------------------------------------------------------------------

/-- The characters that parentheses, negation signs and connectives are written with. -/
def Token.isSymbol (c : Char) : Bool :=
  c ∈ ['~', '&', '|', '(', ')', '-', '<', '>']

/-- Characters that belong to no word: neither letters nor digits nor underscores. -/
def EndsWord (c : Char) : Prop := isBlank c = true ∨ Token.isSymbol c = true

/-- Code points that no run of capitals reaches. -/
theorem isUppercase_eq_false {c : Char}
    (outside : c.toNat < 0x41 ∨ (0x5A < c.toNat ∧ c.toNat < 0xC0) ∨ c.toNat = 0x1680
      ∨ (0x2000 ≤ c.toNat ∧ c.toNat ≤ 0x2100) ∨ c.toNat = 0x3000)
    : isUppercase c = false := by
  have apart : ∀ run ∈ uppercaseRuns,
      (0x41 ≤ run.1 ∧ run.2.1 ≤ 0x5A) ∨ (0xC0 ≤ run.1 ∧ run.2.1 < 0x1680)
      ∨ (0x1680 < run.1 ∧ run.2.1 < 0x2000) ∨ (0x2100 < run.1 ∧ run.2.1 < 0x3000)
      ∨ 0x3000 < run.1 := by
    decide +kernel
  rw [isUppercase, List.any_eq_false]
  rintro ⟨first, last, step⟩ member
  have bounds := apart _ member
  simp only [Bool.and_eq_true, decide_eq_true_eq] at bounds ⊢
  omega

theorem isUppercase_of_isBlank {c : Char} (blank : isBlank c = true) : isUppercase c = false := by
  simp only [isBlank, Bool.or_eq_true, Bool.and_eq_true, decide_eq_true_eq, beq_iff_eq] at blank
  exact isUppercase_eq_false (by omega)

theorem isUppercase_of_isAtomChar {c : Char} (continues : Token.isAtomChar c = true)
    : isUppercase c = false := by
  have bounds := Token.bounds_of_isAtomChar continues
  exact isUppercase_eq_false (by omega)

theorem Token.cases_of_isSymbol {c : Char} (symbol : isSymbol c = true)
    : c = '~' ∨ c = '&' ∨ c = '|' ∨ c = '(' ∨ c = ')' ∨ c = '-' ∨ c = '<' ∨ c = '>' := by
  have known : c ∈ ['~', '&', '|', '(', ')', '-', '<', '>'] := of_decide_eq_true symbol
  simpa only [List.mem_cons, List.not_mem_nil, or_false] using known

theorem isUppercase_of_isSymbol {c : Char} (symbol : Token.isSymbol c = true)
    : isUppercase c = false := by
  rcases Token.cases_of_isSymbol symbol with rfl | rfl | rfl | rfl | rfl | rfl | rfl | rfl
  all_goals exact isUppercase_eq_false (by decide)

theorem isAtomChar_of_isSymbol {c : Char} (symbol : Token.isSymbol c = true)
    : Token.isAtomChar c = false := by
  rcases Token.cases_of_isSymbol symbol with rfl | rfl | rfl | rfl | rfl | rfl | rfl | rfl
  all_goals rfl

-----------------------------------------------------------------------------------------
-- Characters of tokens
-----------------------------------------------------------------------------------------

/-- How a character that is not blank can stand between what is in front of it and what is behind.
-/
inductive Stands (front back : List Char) : Char → Prop
  | start {c} (starts : Token.isAtomStart c = true) : Stands front back c
  | continuation {c d} (continues : Token.isAtomChar c = true) (before : d ∈ front.getLast?)
    (also : Token.isAtomChar d = true)
    : Stands front back c
  | constant {c} (known : c = 'T' ∨ c = 'F') (before : ∀ d ∈ front.getLast?, EndsWord d)
    (behind : ∀ d ∈ back.head?, EndsWord d)
    : Stands front back c
  | symbol {c} (known : Token.isSymbol c = true) (noArrow : c ∉ ['-', '<', '>'])
    : Stands front back c
  | hyphen (behind : '>' ∈ back.head?) : Stands front back '-'
  | angle (behind : ['-', '>'] <+: back) : Stands front back '<'
  | tip (before : '-' ∈ front.getLast?) : Stands front back '>'

namespace Token

/-- A token after which an operand follows ends in a symbol. -/
theorem AwaitsOperand.exists_last {token : Token} (awaits : token.AwaitsOperand)
    : ∃ front c, token.text.toList = front ++ [c] ∧ isSymbol c = true := by
  rcases awaits with rfl | rfl | rfl | rfl | rfl | rfl
  · exact ⟨[], '~', rfl, rfl⟩
  · exact ⟨[], '(', rfl, rfl⟩
  · exact ⟨[], '&', rfl, rfl⟩
  · exact ⟨[], '|', rfl, rfl⟩
  · exact ⟨['-'], '>', rfl, rfl⟩
  · exact ⟨['<', '-'], '>', rfl, rfl⟩

/-- A token with which no operand starts begins with a symbol. -/
theorem exists_first_of_not_startsOperand {token : Token} (closed : ¬ token.StartsOperand)
    : ∃ c back, token.text.toList = c :: back ∧ isSymbol c = true := by
  cases token with
  | truth => exact absurd (.inr (.inr .truth)) closed
  | falsity => exact absurd (.inr (.inr .falsity)) closed
  | atom name => exact absurd (.inr (.inr (.atom name))) closed
  | negation => exact absurd (.inl rfl) closed
  | openParen => exact absurd (.inr (.inl rfl)) closed
  | conjunction => exact ⟨'&', [], rfl, rfl⟩
  | disjunction => exact ⟨'|', [], rfl, rfl⟩
  | implication => exact ⟨'-', ['>'], rfl, rfl⟩
  | equivalence => exact ⟨'<', ['-', '>'], rfl, rfl⟩
  | closeParen => exact ⟨')', [], rfl, rfl⟩

/-- A character of a variable is its first one or goes on after another one. -/
theorem IsAtomName.stands {name front back left right : List Char} {c : Char}
    (named : IsAtomName name) (cut : name = left ++ c :: right)
    : Stands (front ++ left) back c := by
  have letters := named.continues
  obtain ⟨first, rest, same, start, _⟩ := named
  rcases List.eq_nil_or_concat left with rfl | ⟨before, d, rfl⟩
  · rw [same] at cut
    cases cut
    exact .start start
  · rw [List.concat_eq_append] at cut ⊢
    refine .continuation (d := d) (letters c ?_) ?_ (letters d ?_)
    · simp [cut]
    · simp
    · simp [cut]

theorem cut_singleton {d c : Char} {left right : List Char} (cut : [d] = left ++ c :: right)
    : left = [] ∧ c = d ∧ right = [] := by
  cases left <;> simp_all

/-- A character of a token stands right in a text where the token is kept apart from operands on
its sides, by cases on the token.
-/
theorem WellNamed.stands {token : Token} {front back left right : List Char} {c : Char}
    (named : token.WellNamed) (cut : token.text.toList = left ++ c :: right)
    (before : token.StartsOperand → ∀ d ∈ front.getLast?, EndsWord d)
    (behind : ¬ token.AwaitsOperand → ∀ d ∈ back.head?, EndsWord d)
    : Stands (front ++ left) (right ++ back) c := by
  cases token with
  | atom name => exact IsAtomName.stands named cut
  | truth =>
      obtain ⟨rfl, rfl, rfl⟩ := cut_singleton cut
      rw [List.append_nil]
      exact .constant (.inl rfl) (before (.inr (.inr .truth)))
        (behind (by simp [AwaitsOperand, IsBinary]))
  | falsity =>
      obtain ⟨rfl, rfl, rfl⟩ := cut_singleton cut
      rw [List.append_nil]
      exact .constant (.inr rfl) (before (.inr (.inr .falsity)))
        (behind (by simp [AwaitsOperand, IsBinary]))
  | implication =>
      change ['-', '>'] = left ++ c :: right at cut
      rcases List.cons_eq_append_iff.mp cut with ⟨rfl, whole⟩ | ⟨more, rfl, last⟩
      · cases whole
        exact .hyphen rfl
      · obtain ⟨rfl, rfl, rfl⟩ := cut_singleton last
        exact .tip (by simp)
  | equivalence =>
      change ['<', '-', '>'] = left ++ c :: right at cut
      rcases List.cons_eq_append_iff.mp cut with ⟨rfl, whole⟩ | ⟨more, rfl, rest⟩
      · cases whole
        exact .angle ⟨back, rfl⟩
      rcases List.cons_eq_append_iff.mp rest with ⟨rfl, whole⟩ | ⟨others, rfl, last⟩
      · cases whole
        exact .hyphen rfl
      · obtain ⟨rfl, rfl, rfl⟩ := cut_singleton last
        exact .tip (by simp)
  | _ =>
      obtain ⟨rfl, rfl, rfl⟩ := cut_singleton cut
      exact .symbol rfl (by decide)

end Token

-----------------------------------------------------------------------------------------
-- Characters of texts
-----------------------------------------------------------------------------------------

/-- A character that is not blank belongs to the token of one piece, by induction on the pieces. -/
theorem exists_piece_of_cut {pieces : List Piece} {ending front back : List Char} {c : Char}
    (gaps : ∀ piece ∈ pieces, allBlank piece.gap = true) (blank : allBlank ending = true)
    (solid : isBlank c = false) (cut : pieces.flatMap Piece.text ++ ending = front ++ c :: back)
    : ∃ before piece after left right,
        pieces = before ++ piece :: after
        ∧ piece.token.text.toList = left ++ c :: right
        ∧ front = before.flatMap Piece.text ++ piece.gap ++ left
        ∧ back = right ++ (after.flatMap Piece.text ++ ending) := by
  have outside {gap before rest : List Char} (blank : allBlank gap = true)
      (inside : gap = before ++ c :: rest)
      : False := by
    have other := List.all_eq_true.mp blank c (by simp [inside])
    rw [solid] at other
    cases other
  induction pieces generalizing front with
  | nil => exact (outside blank cut).elim
  | cons piece rest ih =>
      rw [List.flatMap_cons, List.append_assoc, Piece.text, List.append_assoc] at cut
      rcases append_eq_append_cons_iff.mp cut with ⟨_, inside, _⟩ | ⟨middle, rfl, behindGap⟩
      · exact (outside (gaps piece List.mem_cons_self) inside).elim
      rcases append_eq_append_cons_iff.mp behindGap with
        ⟨right, inside, rfl⟩ | ⟨further, rfl, behindToken⟩
      · exact ⟨[], piece, rest, middle, right, rfl, inside, rfl, rfl⟩
      · obtain ⟨before, other, after, left, right, rfl, inside, rfl, rfl⟩ :=
          ih (fun next member => gaps next (List.mem_cons_of_mem piece member)) behindToken
        exact ⟨piece :: before, other, after, left, right, rfl, inside,
          by simp [Piece.text], rfl⟩

/-- The last character in front of a token is a blank, or the last one of the token before if there
is no gap between the two.
-/
theorem getLast?_front {before : List Piece} {gap : List Char} {c : Char}
    (named : ∀ piece ∈ before, piece.token.WellNamed) (blank : allBlank gap = true)
    (last : c ∈ (before.flatMap Piece.text ++ gap).getLast?)
    : isBlank c = true
      ∨ gap = [] ∧ ∃ piece ∈ before.getLast?, c ∈ piece.token.text.toList.getLast? := by
  rcases List.eq_nil_or_concat gap with rfl | ⟨others, d, rfl⟩
  · rcases List.eq_nil_or_concat before with rfl | ⟨others, piece, rfl⟩
    · cases last
    · rw [List.concat_eq_append] at named last
      obtain ⟨d, tail, written, _⟩ := (named piece (by simp)).lexeme_text
      rw [List.append_nil, List.flatMap_append, List.flatMap_singleton, Piece.text,
        ← List.append_assoc, List.getLast?_append_of_ne_nil _ (by simp [written])] at last
      exact .inr ⟨rfl, piece, by simp, last⟩
  · have same : d = c := by simpa using last
    exact .inl (List.all_eq_true.mp blank c (by simp [same]))

/-- In front of a token of a text there is the end of a word or nothing, if the token before it ends
in a symbol.
-/
theorem endsWord_of_getLast? {before : List Piece} {gap : List Char}
    (named : ∀ piece ∈ before, piece.token.WellNamed) (blank : allBlank gap = true)
    (awaits : ∀ piece ∈ before.getLast?, piece.token.AwaitsOperand)
    : ∀ c ∈ (before.flatMap Piece.text ++ gap).getLast?, EndsWord c := by
  intro c last
  rcases getLast?_front named blank last with isBlank | ⟨_, piece, member, ends⟩
  · exact .inl isBlank
  · obtain ⟨front, d, text, symbol⟩ := (awaits piece member).exists_last
    have same : d = c := by simpa [text] using ends
    exact .inr (same ▸ symbol)

/-- Behind a token of a text there is the end of a word or nothing, if the token behind it begins
with a symbol.
-/
theorem endsWord_of_head? {after : List Piece} {ending : List Char}
    (gaps : ∀ piece ∈ after, allBlank piece.gap = true) (blank : allBlank ending = true)
    (closed : ∀ piece ∈ after.head?, ¬ piece.token.StartsOperand)
    : ∀ c ∈ (after.flatMap Piece.text ++ ending).head?, EndsWord c := by
  intro c first
  cases after with
  | nil => exact .inl (List.all_eq_true.mp blank c (List.mem_of_mem_head? first))
  | cons piece rest =>
      have gapBlank := gaps piece List.mem_cons_self
      rw [List.flatMap_cons, Piece.text] at first
      cases gap : piece.gap with
      | nil =>
          obtain ⟨d, back, text, symbol⟩ :=
            Token.exists_first_of_not_startsOperand (closed piece rfl)
          have same : d = c := by simpa [gap, text] using first
          exact .inr (same ▸ symbol)
      | cons d others =>
          have same : d = c := by simpa [gap] using first
          exact .inl (List.all_eq_true.mp gapBlank c (by simp [gap, same]))

/-- Every character of a formula that is not blank stands right, as the tokens beside its own one
fit.
-/
theorem Layout.Valid.stands {layout : Layout} {front back : List Char} {c : Char}
    (valid : layout.Valid) (accepted : Accepted (layout.pieces.map Piece.token))
    (solid : isBlank c = false) (cut : layout.text = front ++ c :: back)
    : Stands front back c := by
  obtain ⟨before, piece, after, left, right, same, inside, rfl, rfl⟩ :=
    exists_piece_of_cut valid.pieces.blank valid.ending solid cut
  obtain ⟨gaps, named, _⟩ := valid.pieces
  have chain := accepted.isChain
  rw [same] at gaps named chain
  rw [List.isChain_map, List.isChain_append, List.isChain_cons] at chain
  obtain ⟨_, ⟨fitsBehind, _⟩, fitsBefore⟩ := chain
  have here : piece ∈ before ++ piece :: after := by simp
  refine (named piece here).stands inside (fun starts => ?_) (fun closed => ?_)
  · have before := fun other member => named other (List.mem_append_left _ member)
    refine endsWord_of_getLast? before (gaps piece here) fun last member => ?_
    exact (fitsBefore last member piece rfl).mpr starts
  · refine endsWord_of_head? (fun next member => gaps next ?_) valid.ending fun next member => ?_
    · exact List.mem_append_right before (List.mem_cons_of_mem piece member)
    · exact fun starts => closed ((fitsBehind next member).mpr starts)

-----------------------------------------------------------------------------------------
-- Rules
-----------------------------------------------------------------------------------------

namespace Stands

variable {front back : List Char} {c : Char}

theorem inAlphabet (stands : Stands front back c)
    : Token.isAtomChar c = true ∨ c = 'T' ∨ c = 'F' ∨ Token.isSymbol c = true := by
  cases stands with
  | start starts => exact .inl (Token.isAtomChar_of_isAtomStart starts)
  | continuation continues => exact .inl continues
  | constant known => rcases known with rfl | rfl <;> simp
  | symbol known => exact .inr (.inr (.inr known))
  | _ => exact .inr (.inr (.inr rfl))

/-- A capital stands as a constant. -/
theorem capital (stands : Stands front back c) (upper : isUppercase c = true)
    : (c = 'T' ∨ c = 'F') ∧ (∀ d ∈ front.getLast?, EndsWord d) ∧ ∀ d ∈ back.head?, EndsWord d := by
  cases stands with
  | start starts =>
      cases upper.symm.trans (isUppercase_of_isAtomChar (Token.isAtomChar_of_isAtomStart starts))
  | continuation continues => cases upper.symm.trans (isUppercase_of_isAtomChar continues)
  | constant known before behind => exact ⟨known, before, behind⟩
  | symbol known => cases upper.symm.trans (isUppercase_of_isSymbol known)
  | _ => cases upper.symm.trans (isUppercase_of_isSymbol rfl)

/-- A character that starts no variable, but can go on with one, does. -/
theorem continued (stands : Stands front back c) (continues : Token.isAtomChar c = true)
    (noStart : Token.isAtomStart c = false)
    : ∃ d ∈ front.getLast?, Token.isAtomChar d = true := by
  cases stands with
  | start starts => cases starts.symm.trans noStart
  | continuation _ before also => exact ⟨_, before, also⟩
  | constant known => rcases known with rfl | rfl <;> cases continues
  | symbol known => cases continues.symm.trans (isAtomChar_of_isSymbol known)
  | _ => cases continues

theorem behind_hyphen (stands : Stands front back '-') : '>' ∈ back.head? := by
  cases stands with
  | hyphen behind => exact behind
  | _ => simp_all [Token.isAtomStart, Token.isAtomChar]

theorem behind_angle (stands : Stands front back '<') : ['-', '>'] <+: back := by
  cases stands with
  | angle behind => exact behind
  | _ => simp_all [Token.isAtomStart, Token.isAtomChar]

theorem before_tip (stands : Stands front back '>') : '-' ∈ front.getLast? := by
  cases stands with
  | tip before => exact before
  | _ => simp_all [Token.isAtomStart, Token.isAtomChar]

end Stands

/-- What stands at each place of a formula. -/
structure CharacterRules (text : List Char) : Prop where
  alphabet
    : ∀ c ∈ text,
        isBlank c = true
        ∨ Token.isAtomChar c = true
        ∨ c = 'T'
        ∨ c = 'F'
        ∨ Token.isSymbol c = true
  /-- Capitals are constants that stand alone. -/
  capital
    : ∀ {front c back},
        text = front ++ c :: back
        → isUppercase c = true
        → (c = 'T' ∨ c = 'F')
          ∧ (∀ d ∈ front.getLast?, EndsWord d)
          ∧ ∀ d ∈ back.head?, EndsWord d
  /-- Digits and underscores go on with a variable. -/
  continued
    : ∀ {front c back},
        text = front ++ c :: back
        → c.isDigit = true ∨ c = '_'
        → ∃ d ∈ front.getLast?, Token.isAtomChar d = true
  hyphen : ∀ {front back}, text = front ++ '-' :: back → '>' ∈ back.head?
  angle : ∀ {front back}, text = front ++ '<' :: back → ['-', '>'] <+: back
  tip : ∀ {front back}, text = front ++ '>' :: back → '-' ∈ front.getLast?

/-- Digits and underscores go on with variables, and start none. -/
theorem Token.isAtomChar_of_digit {c : Char} (known : c.isDigit = true ∨ c = '_')
    : isAtomChar c = true ∧ isAtomStart c = false := by
  rcases known with digit | rfl
  · refine ⟨by simp [isAtomChar, digit], Bool.eq_false_iff.mpr fun start => ?_⟩
    have bounds := bounds_of_isAtomStart start
    simp only [Char.isDigit, ge_iff_le, Bool.and_eq_true, decide_eq_true_eq,
      UInt32.le_iff_toNat_le, Char.toNat_val] at digit
    have nine : '9'.toNat = 57 := rfl
    omega
  · decide

/-- Every formula keeps the rules for its characters. -/
theorem characterRules_of_isWellFormed {text : String} (accepted : isWellFormed text = true)
    : CharacterRules text.toList := by
  obtain ⟨tokens, ⟨layout, valid, written, rfl⟩, formula⟩ := isWellFormed_iff_spells.mp accepted
  have stands {front back : List Char} {c : Char} (cut : text.toList = front ++ c :: back)
      (solid : isBlank c = false)
      : Stands front back c :=
    valid.stands formula solid (written.trans cut)
  refine ⟨fun c member => ?_, fun {front c back} cut upper => ?_,
    fun {front c back} cut known => ?_, fun cut => ?_, fun cut => ?_, fun cut => ?_⟩
  · obtain ⟨front, back, cut⟩ := List.append_of_mem member
    cases blank : isBlank c with
    | true => exact .inl rfl
    | false => exact .inr (stands cut blank).inAlphabet
  · refine (stands cut (Bool.eq_false_iff.mpr fun blank => ?_)).capital upper
    cases upper.symm.trans (isUppercase_of_isBlank blank)
  · obtain ⟨continues, noStart⟩ := Token.isAtomChar_of_digit known
    refine (stands cut (Bool.eq_false_iff.mpr fun blank => ?_)).continued continues noStart
    cases continues.symm.trans (isAtomChar_of_isBlank blank)
  · exact (stands cut (by decide)).behind_hyphen
  · exact (stands cut (by decide)).behind_angle
  · exact (stands cut (by decide)).before_tip

/-- Constants beside symbols and blanks, a variable with digits, and both arrows. -/
theorem characterRules_of_isWellFormed_dense
    : isWellFormed "~T<->(a_1->\u3000F)" = true
      ∧ CharacterRules "~T<->(a_1->\u3000F)".toList := by
  have valid : Layout.Valid
      ⟨[⟨[], .negation⟩, ⟨[], .truth⟩, ⟨[], .equivalence⟩, ⟨[], .openParen⟩, ⟨[], .atom "a_1"⟩,
        ⟨[], .implication⟩, ⟨['\u3000'], .falsity⟩, ⟨[], .closeParen⟩], []⟩ := by
    decide
  have accepted : isWellFormed "~T<->(a_1->\u3000F)" = true :=
    isWellFormed_of_scan valid.tokenize rfl
  exact ⟨accepted, characterRules_of_isWellFormed accepted⟩

end SatClient
