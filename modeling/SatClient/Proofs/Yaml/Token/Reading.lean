import Mathlib.Logic.Relation
import SatClient.Proofs.Yaml.Scalar.Plain
import SatClient.Yaml.Token.Stream

/-! Reading tokens line by line. In front of a line no key is left open, and what was found so far
is settled; the key of the line takes two steps, of which the second one puts tokens in front of
the key.
-/

namespace SatClient.Yaml

open Relation (ReflTransGen)

namespace TokenReader

-----------------------------------------------------------------------------------------
-- Steps
-----------------------------------------------------------------------------------------

/-- One round of reading, that is not the last. -/
structure Step (reader next : TokenReader) : Prop where
  fresh : reader.expireAll = .ok reader
  reads : reader.readNext = .ok (next, false)
  shorter : next.cursor.rest.length < reader.cursor.rest.length

/-- Where the last round comes after some steps, the reading does not fail. The induction is on the
steps, each of which takes a character.
-/
theorem readFrom_of_steps {reader before last : TokenReader}
    (steps : ReflTransGen Step reader before)
    (fresh : before.expireAll = .ok before) (reads : before.readNext = .ok (last, true))
    (freshLast : last.expireAll = .ok last) {fuel : Nat}
    (enough : reader.cursor.rest.length < fuel) (settled : Nat)
    : TokenStream.readFrom fuel settled reader = ⟨last.tokens.reverse, none⟩ := by
  induction steps using ReflTransGen.head_induction_on generalizing fuel settled with
  | refl =>
      obtain ⟨fuel, rfl⟩ : ∃ less, fuel = less + 1 := ⟨fuel - 1, by omega⟩
      simp [TokenStream.readFrom, fresh, reads, freshLast]
  | head step _ ih =>
      obtain ⟨fuel, rfl⟩ : ∃ less, fuel = less + 1 := ⟨fuel - 1, by omega⟩
      have shorter := step.shorter
      simpa [TokenStream.readFrom, step.fresh, step.reads] using ih (by omega) _

/-- A key that is on the line of the cursor and not too far stays. -/
theorem expireAll_eq {reader : TokenReader} (outer : reader.outer = [])
    (near : ∀ key ∈ reader.key,
      key.mark.line = reader.cursor.mark.line
      ∧ reader.cursor.mark.index ≤ key.mark.index + maxKeyLength)
    : reader.expireAll = .ok reader := by
  obtain ⟨cursor, tokens, blocks, keyAllowed, key, others⟩ := reader
  obtain rfl := outer
  cases key with
  | none => rfl
  | some key =>
      obtain ⟨sameLine, near⟩ := near key rfl
      simp only [] at sameLine near
      have stays : expire cursor.mark (some key) = .ok (some key) := by
        simp [expire, sameLine, Nat.not_lt.mpr near]
      simp only [expireAll, stays]
      rfl

def found (reader : TokenReader) : List Token := reader.tokens.reverse.map (·.token)

-----------------------------------------------------------------------------------------
-- Lines
-----------------------------------------------------------------------------------------

/-- A text starts with what is neither a gap nor a comment. -/
def StartsToken (text : List Char) : Prop :=
  ∀ c ∈ text.head?, isSolid (some c) = true ∧ c ≠ '#' ∧ c ≠ byteOrderMark

section Skipping

variable {rest : List Char} {mark : Mark} {tokens : List PlacedToken} {blocks : List Nat}
  {allowed : Bool} {key : Option PossibleKey}

theorem skipToToken_spaces (starts : StartsToken rest) (fuel count : Nat)
    : skipToToken (fuel + 1)
        ⟨⟨List.replicate count ' ' ++ rest, mark⟩, tokens, blocks, allowed, key, []⟩
      = ⟨⟨rest, mark.advance count⟩, tokens, blocks, allowed, key, []⟩ := by
  have noMark
      : ((List.replicate count ' ' ++ rest).head? == some byteOrderMark) = false := by
    rw [beq_eq_false_iff_ne]
    cases count with
    | zero => exact fun isHead => (starts byteOrderMark isHead).2.2 rfl
    | succ count => exact nofun
  have noComment : (rest.head? == some '#') = false := by
    rw [beq_eq_false_iff_ne]
    exact fun isHead => (starts '#' isHead).2.1 rfl
  have spaces (tabs : Bool)
      : Cursor.skipWhile (fun c => c == ' ' || (tabs && c == '\t'))
          ⟨List.replicate count ' ' ++ rest, mark⟩
        = ⟨rest, mark.advance count⟩ := by
    refine (Cursor.skipWhile_append mark (by simp) ?_).trans (by rw [List.length_replicate])
    intro c isHead
    obtain ⟨notBlank, -⟩ := isSolid_some_iff.mp (starts c isHead).1
    simp only [isBlank, Bool.or_eq_false_iff] at notBlank
    simp [notBlank]
  have noBreak : Cursor.atBreak ⟨rest, mark.advance count⟩ = false :=
    Cursor.atBreak_eq_false _ fun c isHead => (isSolid_some_iff.mp (starts c isHead).1).2
  simp only [skipToToken, Cursor.head?, noMark, Bool.and_false, Bool.false_eq_true, if_false,
    spaces, noComment, noBreak]

theorem skipToToken_feed (starts : StartsToken rest) (fuel count : Nat)
    : skipToToken (fuel + 2)
        ⟨⟨'\n' :: (List.replicate count ' ' ++ rest), mark⟩, tokens, blocks, allowed, key, []⟩
      = ⟨⟨rest, (mark.newline 1).advance count⟩, tokens, blocks, true, key, []⟩ := by
  have step
      : skipToToken (fuel + 2)
          ⟨⟨'\n' :: (List.replicate count ' ' ++ rest), mark⟩, tokens, blocks, allowed, key, []⟩
        = skipToToken (fuel + 1)
            ⟨⟨List.replicate count ' ' ++ rest, mark.newline 1⟩, tokens, blocks, true, key,
              []⟩ := by
    have noMark : (some '\n' == some byteOrderMark) = false := rfl
    have stays (tabs : Bool)
        : Cursor.skipWhile (fun c => c == ' ' || (tabs && c == '\t'))
            ⟨'\n' :: (List.replicate count ' ' ++ rest), mark⟩
          = ⟨'\n' :: (List.replicate count ' ' ++ rest), mark⟩ := by
      simp [Cursor.skipWhile, Cursor.span]
    simp only [skipToToken, Cursor.head?_cons, noMark, Bool.and_false, Bool.false_eq_true, if_false,
      stays]
    simp [Cursor.atBreak, isBreak, Cursor.readBreak_cons mark (c := '\n') rfl rfl, inFlow]
  rw [step, skipToToken_spaces starts]

end Skipping

/-- A line of a text: its indentation, and what stands behind that up to the end of the text. -/
structure Line where
  column : Nat
  rest : List Char

def Line.text (line : Line) : List Char := List.replicate line.column ' ' ++ line.rest

/-- A reader in front of a line: behind the indentation, or before the break in front of it. -/
structure AtLine (reader : TokenReader) (line : Line) : Prop where
  key : reader.key = none
  outer : reader.outer = []
  place :
    reader.cursor.rest = line.rest ∧ reader.cursor.mark.column = line.column
        ∧ reader.keyAllowed = true
      ∨ reader.cursor.rest = '\n' :: line.text

namespace AtLine

variable {reader : TokenReader} {line : Line}

theorem expireAll_eq (atLine : reader.AtLine line) : reader.expireAll = .ok reader :=
  TokenReader.expireAll_eq atLine.outer (by rw [atLine.key]; exact nofun)

theorem length_le (atLine : reader.AtLine line)
    : line.rest.length ≤ reader.cursor.rest.length := by
  obtain ⟨place, -, -⟩ | place := atLine.place
  · exact Nat.le_of_eq (by rw [place])
  · rw [place, Line.text, List.length_cons, List.length_append]
    omega

theorem skipToToken_eq (atLine : reader.AtLine line) (starts : StartsToken line.rest)
    : ∃ mark,
        mark.column = line.column
        ∧ reader.skipToToken (reader.cursor.rest.length + 1)
          = { reader with cursor := ⟨line.rest, mark⟩, keyAllowed := true } := by
  obtain ⟨⟨rest, mark⟩, tokens, blocks, allowed, key, outer⟩ := reader
  obtain ⟨rfl, rfl, place⟩ := atLine
  obtain ⟨rfl, isColumn, rfl⟩ | rfl := place
  · exact ⟨mark, isColumn, skipToToken_spaces starts _ 0⟩
  · exact ⟨(mark.newline 1).advance line.column, by simp, skipToToken_feed starts _ line.column⟩

end AtLine

-----------------------------------------------------------------------------------------
-- Blocks
-----------------------------------------------------------------------------------------

/-- The blocks that a line leaves open. -/
def kept (column : Nat) (blocks : List Nat) : List Nat := blocks.dropWhile (column < ·)

/-- The ends of the blocks that a line closes. -/
def closing (column : Nat) (blocks : List Nat) : List Token :=
  (blocks.takeWhile (column < ·)).map fun _ => .blockEnd

/-- The blocks around a key. -/
def opened (column : Nat) (blocks : List Nat) : List Nat :=
  if blocks.head?.all (· < column) then column :: blocks else blocks

/-- The start of the block that a key opens. -/
def opening (column : Nat) (blocks : List Nat) : List Token :=
  if blocks.head?.all (· < column) then [.blockMappingStart] else []

theorem head_kept {column : Nat} {blocks : List Nat}
    : ∀ b ∈ (kept column blocks).head?, b ≤ column := by
  intro b isHead
  have last := List.head?_dropWhile_not (fun b => decide (column < b)) blocks
  rw [← kept, isHead] at last
  simpa using last

/-- No block is closed within a line that is inside of the innermost one. -/
theorem closeBlocks_eq {reader : TokenReader} {column : Nat}
    (inside : ∀ b ∈ reader.blocks.head?, b ≤ column)
    : reader.closeBlocks (column < ·) = reader := by
  obtain ⟨cursor, tokens, blocks, allowed, key, outer⟩ := reader
  cases blocks with
  | nil => simp [closeBlocks]
  | cons b blocks =>
      have notDeeper : ¬ column < b := Nat.not_lt.mpr (inside b rfl)
      simp [closeBlocks, notDeeper]

/-- Within a line, the next token is read behind the spaces in front of it. -/
theorem readNext_eq {c : Char} {rest : List Char} {mark : Mark} {blocks : List Nat}
    {key : Option PossibleKey} (count : Nat) (starts : StartsToken (c :: rest))
    (near : ∀ k ∈ key,
      k.mark.line = mark.line ∧ mark.index + count ≤ k.mark.index + maxKeyLength)
    (inside : ∀ b ∈ blocks.head?, b ≤ mark.column + count) (tokens : List PlacedToken)
    (allowed : Bool)
    : readNext ⟨⟨List.replicate count ' ' ++ c :: rest, mark⟩, tokens, blocks, allowed, key, []⟩
      = (do
          let next ←
            readToken ⟨⟨c :: rest, mark.advance count⟩, tokens, blocks, allowed, key, []⟩ c
          return (next, false)) := by
  rw [readNext, skipToToken_spaces starts, TokenReader.expireAll_eq rfl near]
  simp only [bind, Except.bind]
  rw [closeBlocks_eq inside]
  rfl

/-- In front of a line, the next token is read once the blocks that end there are closed. -/
theorem AtLine.readNext_eq {reader : TokenReader} {line : Line} (atLine : reader.AtLine line)
    (starts : StartsToken line.rest)
    : ∃ (mark : Mark) (tokens : List PlacedToken),
        mark.column = line.column
        ∧ tokens.reverse.map (·.token) = reader.found ++ closing line.column reader.blocks
        ∧ reader.readNext
          = (let ready : TokenReader :=
              ⟨⟨line.rest, mark⟩, tokens, kept line.column reader.blocks, true, none, []⟩
            match line.rest.head? with
            | none => do return (← ready.readEnd, true)
            | some c => do return (← ready.readToken c, false)) := by
  obtain ⟨mark, isColumn, skips⟩ := atLine.skipToToken_eq starts
  obtain ⟨cursor, tokens, blocks, allowed, key, outer⟩ := reader
  obtain ⟨rfl, rfl, -⟩ := atLine
  refine
    ⟨mark, (blocks.takeWhile (line.column < ·)).map (fun _ => ⟨.blockEnd, mark, mark⟩) ++ tokens,
      isColumn, ?_, ?_⟩
  · simp [found, closing, List.map_const']
  · rw [readNext, skips, TokenReader.expireAll_eq rfl (by simp)]
    simp only [bind, Except.bind, column, isColumn]
    rfl

-----------------------------------------------------------------------------------------
-- Keys
-----------------------------------------------------------------------------------------

section Keys

variable {name tail : List Char} {mark : Mark} {tokens : List PlacedToken} {blocks : List Nat}

/-- A plain scalar starts with a character that means nothing of its own, or that only would in
front of a gap.
-/
theorem readToken_plain {reader : TokenReader} {c : Char} (outer : reader.outer = [])
    (solid : isSolid (some c) = true)
    (starts : isIndicator c = true →
      (c = '-' ∨ c = '?' ∨ c = ':') ∧ isSolid (reader.cursor.ahead? 1) = true)
    (noDocument : reader.cursor.atDocumentIndicator = false)
    : reader.readToken c = reader.readPlainScalar := by
  have inBlock : reader.inFlow = false := by simp [inFlow, outer]
  cases indicates : isIndicator c with
  | false =>
      have others := indicates
      simp only [isIndicator, decide_eq_false_iff_not, List.mem_cons, not_or] at others
      simp [readToken, others, noDocument, inBlock, startsPlain, solid, indicates]
  | true =>
      obtain ⟨indicator, next⟩ := starts indicates
      have noBlank : (reader.cursor.ahead? 1).any isBlank = false := by
        cases ahead : reader.cursor.ahead? 1 with
        | none => rfl
        | some d =>
            rw [ahead] at next
            exact (isSolid_some_iff.mp next).1
      obtain rfl | rfl | rfl := indicator <;>
        simp [readToken, noDocument, inBlock, startsPlain, next, noBlank]

theorem isIndicator_of_isNameChar {c : Char} (named : isNameChar c = true)
    : isIndicator c = false := by
  simp only [isIndicator, decide_eq_false_iff_not, List.mem_cons, List.not_mem_nil, or_false,
    not_or]
  and_intros <;> exact ne_of_isNameChar named rfl

/-- A reader behind a name, which is kept back since it may be a key. -/
def behindName (name tail : List Char) (mark : Mark) (tokens : List PlacedToken)
    (blocks : List Nat) : TokenReader :=
  ⟨⟨':' :: tail, mark.advance name.length⟩,
    ⟨.scalar name .plain, mark, mark.advance name.length⟩ :: tokens, blocks, false,
    some ⟨tokens.length, blocks.head? == some mark.column, mark⟩, []⟩

theorem readToken_name (named : IsName name) (gap : isSolid tail.head? = false) (mark : Mark)
    (tokens : List PlacedToken) (blocks : List Nat)
    : ∀ c ∈ (name ++ ':' :: tail).head?,
        readToken ⟨⟨name ++ ':' :: tail, mark⟩, tokens, blocks, true, none, []⟩ c
        = .ok (behindName name tail mark tokens blocks) := by
  have noDocument := named.atDocumentIndicator_eq (':' :: tail) mark
  obtain ⟨c, others, rfl⟩ := List.exists_cons_of_ne_nil named.some
  have isFirst := named.all c List.mem_cons_self
  rintro d ⟨⟩
  rw [readToken_plain rfl (isSolid_of_isNameChar isFirst)
    (by simp [isIndicator_of_isNameChar isFirst]) noDocument]
  simp only [readPlainScalar, saveKey, dropKey, if_true, bind, Except.bind, pure, Except.pure,
    inFlow, List.isEmpty_nil, Bool.not_true, Bool.not_false, Bool.true_and, column,
    named.readPlain_eq _ mark gap]
  rfl

theorem startsToken_name (named : IsName name) (tail : List Char) : StartsToken (name ++ tail) := by
  obtain ⟨c, others, rfl⟩ := List.exists_cons_of_ne_nil named.some
  have isFirst := named.all c List.mem_cons_self
  rintro d ⟨⟩
  exact ⟨isSolid_of_isNameChar isFirst, ne_of_isNameChar isFirst rfl, ne_of_isNameChar isFirst rfl⟩

/-- The name at the start of a line is read. -/
theorem AtLine.step_name {reader : TokenReader} {column : Nat}
    (atLine : reader.AtLine ⟨column, name ++ ':' :: tail⟩) (named : IsName name)
    (gap : isSolid tail.head? = false)
    : ∃ (mark : Mark) (tokens : List PlacedToken),
        mark.column = column
        ∧ tokens.reverse.map (·.token) = reader.found ++ closing column reader.blocks
        ∧ Step reader (behindName name tail mark tokens (kept column reader.blocks)) := by
  obtain ⟨mark, tokens, isColumn, isTokens, reads⟩ :=
    atLine.readNext_eq (startsToken_name named (':' :: tail))
  refine ⟨mark, tokens, isColumn, isTokens, atLine.expireAll_eq, ?_, ?_⟩
  · have name_eq := readToken_name named gap mark tokens (kept column reader.blocks)
    obtain ⟨c, others, rfl⟩ := List.exists_cons_of_ne_nil named.some
    rw [reads]
    simp only [List.cons_append, List.head?_cons]
    rw [← List.cons_append, name_eq c rfl]
    rfl
  · have longer := atLine.length_le
    have some := List.length_pos_iff.mpr named.some
    simp only [behindName, List.length_append, List.length_cons] at longer ⊢
    omega

/-- The colon behind a name settles that it is a key: the key and the start of its block come
before it.
-/
theorem readToken_colon (gap : isSolid tail.head? = false) (scalar : PlacedToken) (required : Bool)
    (start : Mark)
    : readToken
        ⟨⟨':' :: tail, mark⟩, scalar :: tokens, blocks, false,
          some ⟨tokens.length, required, start⟩, []⟩ ':'
      = .ok
          ⟨⟨tail, mark.advance 1⟩,
            ⟨.value, mark, mark.advance 1⟩ :: scalar :: ⟨.key, start, start⟩
              :: ((opening start.column blocks).map fun token => ⟨token, start, start⟩) ++ tokens,
            opened start.column blocks, false, none, []⟩ := by
  have gap' : isSolid (Cursor.ahead? ⟨':' :: tail, mark⟩ 1) = false := by
    simpa [Cursor.ahead?, List.head?_eq_getElem?] using gap
  have noDocument : Cursor.atDocumentIndicator ⟨':' :: tail, mark⟩ = false := by
    simp [Cursor.atDocumentIndicator]
  have value
      : readToken
          ⟨⟨':' :: tail, mark⟩, scalar :: tokens, blocks, false,
            some ⟨tokens.length, required, start⟩, []⟩ ':'
        = readValue
            ⟨⟨':' :: tail, mark⟩, scalar :: tokens, blocks, false,
              some ⟨tokens.length, required, start⟩, []⟩ := by
    simp [readToken, noDocument, gap']
  have later : tokens.length + 1 + 1 - tokens.length = 2 := by omega
  rw [value]
  cases opens : blocks.head?.all (· < start.column) <;>
    simp [readValue, insert, openBlock, opens, opening, opened, take, add, inFlow, later, pure,
      Except.pure]

theorem near_behindName (short : name.length ≤ maxKeyLength) (number : Nat) (required : Bool)
    : ∀ key ∈ some (PossibleKey.mk number required mark),
        key.mark.line = (mark.advance name.length).line
        ∧ (mark.advance name.length).index ≤ key.mark.index + maxKeyLength := by
  rintro key ⟨⟩
  simpa using short

/-- The colon behind a name is read. -/
theorem step_colon (short : name.length ≤ maxKeyLength) (gap : isSolid tail.head? = false)
    (inside : ∀ b ∈ blocks.head?, b ≤ mark.column)
    : Step (behindName name tail mark tokens blocks)
        ⟨⟨tail, (mark.advance name.length).advance 1⟩,
          ⟨.value, mark.advance name.length, (mark.advance name.length).advance 1⟩
            :: ⟨.scalar name .plain, mark, mark.advance name.length⟩ :: ⟨.key, mark, mark⟩
            :: ((opening mark.column blocks).map fun token => ⟨token, mark, mark⟩) ++ tokens,
          opened mark.column blocks, false, none, []⟩ where
  fresh := TokenReader.expireAll_eq rfl (near_behindName short _ _)
  reads := by
    have startsColon : StartsToken (':' :: tail) := by
      rintro d ⟨⟩
      decide
    have inside' : ∀ b ∈ blocks.head?, b ≤ (mark.advance name.length).column :=
      fun b isHead => Nat.le_trans (inside b isHead) (Nat.le_add_right _ _)
    refine (readNext_eq 0 startsColon (near_behindName short _ _) inside' _ _).trans ?_
    rw [Mark.advance_zero, readToken_colon gap]
    rfl
  shorter := Nat.lt_succ_self _

/-- The key of a line is read in two steps: as a scalar that is kept back, and as a key with its
colon.
-/
theorem AtLine.steps_key {reader : TokenReader} {column : Nat}
    (atLine : reader.AtLine ⟨column, name ++ ':' :: tail⟩) (named : IsName name)
    (short : name.length ≤ maxKeyLength) (gap : isSolid tail.head? = false)
    : ∃ (mark : Mark) (tokens : List PlacedToken),
        column + 2 ≤ mark.column
        ∧ tokens.reverse.map (·.token)
          = reader.found ++ closing column reader.blocks
            ++ opening column (kept column reader.blocks)
            ++ [.key, .scalar name .plain, .value]
        ∧ ReflTransGen Step reader
            ⟨⟨tail, mark⟩, tokens, opened column (kept column reader.blocks), false, none, []⟩ := by
  obtain ⟨mark, tokens, rfl, isTokens, first⟩ := atLine.step_name named gap
  have second : Step (behindName name tail mark tokens (kept mark.column reader.blocks)) _ :=
    step_colon short gap head_kept
  refine ⟨_, _, ?_, ?_, .tail (.single first) second⟩
  · have some := List.length_pos_iff.mpr named.some
    simp
    omega
  · rw [← isTokens]
    unfold opening
    split <;> simp

end Keys

end TokenReader

end SatClient.Yaml
