import SatClient.Proofs.Yaml.Scalar.Allowed
import SatClient.Proofs.Yaml.Token.Reading

/-! Reading the text behind a key: one step, whatever the style, which leads to the line behind the
text.
-/

namespace SatClient.Yaml

open Gap (EndsGap)

-----------------------------------------------------------------------------------------
-- First characters
-----------------------------------------------------------------------------------------

namespace Written

theorem isSolid_of_endsWord {text : List Char} (goesOn : endsWord text = false)
    : isSolid text.head? = true := by
  cases text with
  | nil => cases goesOn
  | cons c text => exact isSolid_of_not_isGap goesOn

theorem of_startsAsIndicator {c : Char} {others : List Char}
    (free : startsAsIndicator (c :: others) = false)
    : isIndicator c = false ∧ ((c == '?' || c == '-') && endsWord others) = false := by
  unfold startsAsIndicator at free
  split at free
  · contradiction
  · contradiction
  · contradiction
  · cases ‹_ :: _ = _›
    exact Bool.or_eq_false_iff.mp free

/-- A plain text starts with a character that means nothing where a token starts, or not in front of
a word.
-/
theorem isIndicator_of_allowsPlain {c : Char} {others : List Char}
    (allows : allowsPlain (c :: others) = true) (indicates : TokenReader.isIndicator c = true)
    : (c = '-' ∨ c = '?' ∨ c = ':') ∧ isSolid others.head? = true := by
  simp only [allowsPlain, hasIndicator, Bool.and_eq_true, Bool.not_eq_true', Bool.or_eq_false_iff]
    at allows
  obtain ⟨-, ⟨free, noColon⟩, -⟩ := allows
  obtain ⟨noIndicator, noHyphen⟩ := of_startsAsIndicator free
  rw [hasKeyColon, Bool.or_eq_false_iff] at noColon
  have isOne : c = '-' ∨ c = '?' ∨ c = ':' := by
    simp only [isIndicator, isFlowIndicator, Bool.or_eq_false_iff, beq_eq_false_iff_ne,
      decide_eq_false_iff_not, List.mem_cons, List.not_mem_nil, or_false, not_or] at noIndicator
    simp only [TokenReader.isIndicator, decide_eq_true_eq, List.mem_cons, List.not_mem_nil,
      or_false] at indicates
    grind
  refine ⟨isOne, isSolid_of_endsWord ?_⟩
  obtain rfl | rfl | rfl := isOne
  · simpa using noHyphen
  · simpa using noHyphen
  · simpa using noColon.1

end Written

namespace TokenReader

section Values

variable {text rest : List Char} {mark : Mark} {blocks : List Nat} {column : Nat}

/-- A reader behind the colon of a key, inside of a block in column 2. -/
def behindColon (text : List Char) (mark : Mark) (tokens : List PlacedToken) (blocks : List Nat)
    : TokenReader :=
  ⟨⟨' ' :: text, mark⟩, tokens, 2 :: blocks, false, none, []⟩

/-- The same reader behind the token that stands there. -/
def behindValue (token : Token) (cursor : Cursor) (mark : Mark) (tokens : List PlacedToken)
    (blocks : List Nat) (allowed : Bool) : TokenReader :=
  ⟨cursor, ⟨token, mark.advance 1, cursor.mark⟩ :: tokens, 2 :: blocks, allowed, none, []⟩

section Scalars

variable {input : List Char} {cursor : Cursor} {tokens : List PlacedToken}

theorem readPlainScalar_eq
    (read : readPlain false 3 ⟨input, mark.advance 1⟩ = .ok ⟨text, true, cursor⟩)
    : readPlainScalar ⟨⟨input, mark.advance 1⟩, tokens, 2 :: blocks, false, none, []⟩
      = .ok (behindValue (.scalar text .plain) cursor mark tokens blocks true) := by
  simp [readPlainScalar, saveKey, inFlow, least, read, bind, Except.bind, pure, Except.pure, add,
    behindValue]

theorem readQuotedScalar_eq {isSingle : Bool}
    (read : readQuoted isSingle ⟨input, mark.advance 1⟩ = .ok ⟨text, false, cursor⟩)
    : readQuotedScalar ⟨⟨input, mark.advance 1⟩, tokens, 2 :: blocks, false, none, []⟩ isSingle
      = .ok
          (behindValue (.scalar text (if isSingle then .single else .double)) cursor mark tokens
            blocks false) := by
  simp [readQuotedScalar, saveKey, read, bind, Except.bind, pure, Except.pure, add, behindValue]

theorem readBlockScalar_eq
    (read : readBlock true 3 ⟨input, mark.advance 1⟩ = .ok ⟨text, true, cursor⟩)
    : readBlockScalar ⟨⟨input, mark.advance 1⟩, tokens, 2 :: blocks, false, none, []⟩ true
      = .ok (behindValue (.scalar text .literal) cursor mark tokens blocks true) := by
  simp [readBlockScalar, dropKey, least, read, bind, Except.bind, pure, Except.pure, add,
    behindValue]

end Scalars

/-- A step that reads what stands behind a key as one token, up to a line. -/
structure ReadsAs (reader : TokenReader) (token : Token) (line : Line) (next : TokenReader) : Prop
    where
  step : Step reader next
  atLine : next.AtLine line
  blocks : next.blocks = reader.blocks
  found : next.found = reader.found ++ [token]

/-- What a token leads to decides on the step, which takes the space in front of it as well. -/
theorem readsAs_of_readToken {c : Char} {cursor : Cursor} {tokens : List PlacedToken}
    {token : Token} {line : Line} {allowed : Bool} (starts : StartsToken (c :: rest))
    (inside : 4 ≤ mark.column)
    (reads :
      readToken ⟨⟨c :: rest, mark.advance 1⟩, tokens, 2 :: blocks, false, none, []⟩ c
      = .ok (behindValue token cursor mark tokens blocks allowed))
    (shorter : cursor.rest.length ≤ rest.length + 1)
    (place :
      cursor.rest = line.rest ∧ cursor.mark.column = line.column ∧ allowed = true
        ∨ cursor.rest = '\n' :: line.text)
    : ReadsAs (behindColon (c :: rest) mark tokens blocks) token line
        (behindValue token cursor mark tokens blocks allowed) where
  step :=
    { fresh := TokenReader.expireAll_eq rfl (by simp [behindColon])
      reads := by
        have inBlock : ∀ b ∈ (2 :: blocks).head?, b ≤ mark.column + 1 := by
          rintro b ⟨⟩
          omega
        refine (readNext_eq 1 starts (by simp) inBlock tokens false).trans ?_
        rw [reads]
        rfl
      shorter := by
        simp only [behindColon, behindValue, List.length_cons]
        omega }
  atLine := ⟨rfl, rfl, place⟩
  blocks := rfl
  found := by simp [found, behindColon, behindValue]

/-- A plain text is read up to the next line. -/
theorem readsAs_plain (allows : Written.allowsPlain text = true) (some : text ≠ [])
    (ends : EndsGap rest) (outside : column < 3) (inside : 4 ≤ mark.column)
    (tokens : List PlacedToken) (blocks : List Nat)
    : ∃ next,
        ReadsAs
          (behindColon (text ++ '\n' :: (List.replicate column ' ' ++ rest)) mark tokens blocks)
          (.scalar text .plain) ⟨column, rest⟩ next := by
  have inLine : 3 ≤ (mark.advance 1).column := by
    rw [Mark.column_advance]
    omega
  obtain ⟨next, read, isColumn⟩ := readPlain_of_allowsPlain allows some ends outside inLine
  obtain ⟨plain, noSpace, noComment⟩ := isPlain_of_allowsPlain allows
  obtain ⟨c, others, rfl⟩ := List.exists_cons_of_ne_nil some
  have solid := plain.solid List.mem_cons_self fun same => noSpace (by rw [same]; rfl)
  have starts : StartsToken (c :: (others ++ '\n' :: (List.replicate column ' ' ++ rest))) := by
    rintro d ⟨⟩
    refine ⟨solid, fun same => noComment (by rw [same]; rfl), ?_⟩
    rintro rfl
    exact absurd (plain.printable byteOrderMark List.mem_cons_self) (by decide)
  have noDocument
      : Cursor.atDocumentIndicator
          ⟨c :: (others ++ '\n' :: (List.replicate column ' ' ++ rest)), mark.advance 1⟩ = false :=
    Cursor.atDocumentIndicator_of_column_ne (by dsimp only; omega)
  refine ⟨behindValue (.scalar (c :: others) .plain) ⟨rest, next⟩ mark tokens blocks true,
    readsAs_of_readToken starts inside ?_ ?_ (.inl ⟨rfl, isColumn, rfl⟩)⟩
  · refine (readToken_plain rfl solid ?_ noDocument).trans ?_
    · intro indicates
      obtain ⟨isOne, goesOn⟩ := Written.isIndicator_of_allowsPlain allows indicates
      refine ⟨isOne, ?_⟩
      cases others with
      | nil => cases goesOn
      | cons d more => exact goesOn
    · exact readPlainScalar_eq read
  · simp
    omega

theorem readToken_quoteMark {reader : TokenReader}
    (noDocument : reader.cursor.atDocumentIndicator = false) (isSingle : Bool)
    : reader.readToken (quoteMark isSingle) = reader.readQuotedScalar isSingle := by
  cases isSingle <;> simp [readToken, quoteMark, noDocument]

/-- A text between quotes is read up to the end of its line. -/
theorem readsAs_quoted {isSingle : Bool} {inner : List Char} {next : Mark} {line : Line}
    (read :
      readQuoted isSingle ⟨quoteMark isSingle :: inner ++ '\n' :: line.text, mark.advance 1⟩
      = .ok ⟨text, false, ⟨'\n' :: line.text, next⟩⟩)
    (inside : 4 ≤ mark.column) (tokens : List PlacedToken) (blocks : List Nat)
    : ∃ next,
        ReadsAs
          (behindColon (quoteMark isSingle :: inner ++ '\n' :: line.text) mark tokens blocks)
          (.scalar text (if isSingle then .single else .double)) line next := by
  have starts : StartsToken (quoteMark isSingle :: (inner ++ '\n' :: line.text)) := by
    rintro d ⟨⟩
    cases isSingle <;> decide
  have noDocument
      : Cursor.atDocumentIndicator
          ⟨quoteMark isSingle :: (inner ++ '\n' :: line.text), mark.advance 1⟩ = false :=
    Cursor.atDocumentIndicator_of_column_ne (Nat.succ_ne_zero mark.column)
  refine
    ⟨behindValue (.scalar text (if isSingle then .single else .double)) ⟨'\n' :: line.text, next⟩
      mark tokens blocks false,
      readsAs_of_readToken starts inside ?_ ?_ (.inr rfl)⟩
  · exact (readToken_quoteMark noDocument isSingle).trans (readQuotedScalar_eq read)
  · simp
    omega

/-- A text that stands line by line is read up to the next line. -/
theorem readsAs_literal (allows : Written.allowsLiteral text = true) (ends : EndsGap rest)
    (outside : column < 3) (inside : 4 ≤ mark.column) (tokens : List PlacedToken)
    (blocks : List Nat)
    : ∃ next,
        ReadsAs
          (behindColon
            (Written.literal text ++ (Written.ending text ++ (List.replicate column ' ' ++ rest)))
            mark tokens blocks)
          (.scalar text .literal) ⟨column, rest⟩ next := by
  obtain ⟨next, read, isColumn⟩ :=
    readBlock_literal allows ends (Nat.lt_succ_of_lt outside) (mark.advance 1)
  have starts (others : List Char) : StartsToken ('|' :: others) := by
    rintro d ⟨⟩
    decide
  have token (others : List Char)
      : readToken ⟨⟨'|' :: others, mark.advance 1⟩, tokens, 2 :: blocks, false, none, []⟩ '|'
        = readBlockScalar ⟨⟨'|' :: others, mark.advance 1⟩, tokens, 2 :: blocks, false, none, []⟩
            true := by
    have noDocument : Cursor.atDocumentIndicator ⟨'|' :: others, mark.advance 1⟩ = false :=
      Cursor.atDocumentIndicator_of_column_ne (Nat.succ_ne_zero mark.column)
    simp [readToken, noDocument, inFlow]
  refine
    ⟨behindValue (.scalar text .literal) ⟨rest, next⟩ mark tokens blocks true,
      readsAs_of_readToken (starts _) inside ?_ ?_ (.inl ⟨rfl, isColumn, rfl⟩)⟩
  · exact (token _).trans (readBlockScalar_eq read)
  · simp
    omega

/-- A text behind a key is read back in one step, up to the line behind it. -/
theorem readsAs_scalar (text : List Char) (ends : EndsGap rest) (outside : column < 3)
    (inside : 4 ≤ mark.column) (tokens : List PlacedToken) (blocks : List Nat)
    : ∃ next,
        ReadsAs
          (behindColon (Written.scalar text ++ (List.replicate column ' ' ++ rest)) mark tokens
            blocks)
          (.scalar text (Written.style text)) ⟨column, rest⟩ next := by
  let line : Line := ⟨column, rest⟩
  unfold Written.scalar
  obtain ⟨style, allows, some⟩ | ⟨style, allows, noFeed⟩ | ⟨style, allows⟩ | style :=
    Written.cases_of_style text
  · rw [style, List.append_assoc]
    exact readsAs_plain allows some ends outside inside tokens blocks
  · have closes : ('\n' :: line.text).head? ≠ some '\'' := nofun
    obtain ⟨next, read⟩ := readQuoted_single allows noFeed closes (mark.advance 1)
    rw [style, List.append_assoc]
    exact readsAs_quoted read inside tokens blocks
  · rw [style, List.append_assoc]
    exact readsAs_literal allows ends outside inside tokens blocks
  · obtain ⟨next, read⟩ := readQuoted_double text ('\n' :: line.text) (mark.advance 1)
    rw [style, List.append_assoc]
    exact readsAs_quoted read inside tokens blocks

end Values

end TokenReader

end SatClient.Yaml
