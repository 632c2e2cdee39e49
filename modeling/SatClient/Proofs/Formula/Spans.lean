import SatClient.Proofs.Formula.Layout
import SatClient.Proofs.Text.Boundary

/-! The places of items in a text. Reading goes on after an error, so that every character that is
not blank belongs to one item, whatever the text: the spans of the items follow one another, blanks
alone lie between them, and none starts or ends inside a character.
-/

namespace SatClient

open Text Lexer

-----------------------------------------------------------------------------------------
-- Spans
-----------------------------------------------------------------------------------------

/-- A stretch of a text: the byte offset where it starts, and its characters. -/
structure Span where
  start : Nat
  text : List Char
  deriving DecidableEq, Repr

namespace Span

/-- The byte offset behind a span. -/
def stop (span : Span) : Nat := span.start + width span.text

/-- A text has the characters of a span at its place. -/
def IsIn (span : Span) (text : List Char) : Prop :=
  ∃ front back, text = front ++ span.text ++ back ∧ width front = span.start

/-- A byte offset falls into a span. -/
def Covers (span : Span) (offset : Nat) : Prop := span.start ≤ offset ∧ offset < span.stop

end Span

/-- The text of a token holds no blanks. -/
theorem Token.WellNamed.solid {token : Token} (named : token.WellNamed)
    : ∀ c ∈ token.text.toList, isBlank c = false := by
  cases token with
  | atom name =>
      intro c member
      rw [Bool.eq_false_iff]
      intro blank
      cases (IsAtomName.continues named c member).symm.trans (isAtomChar_of_isBlank blank)
  | _ => simp [Token.text, isBlank]

namespace Lexer

def offset? : Item → Option Nat
  | .ok next => some next.offset
  | .error fault => fault.offset?

/-- The span of an item in its text: the text of a token, or the character at fault. Of an
equivalence arrow that is not complete it is the angle, with a hyphen right behind it.
-/
def spanOf? (text : List Char) : Item → Option Span
  | .ok next => some ⟨next.offset, next.token.text.toList⟩
  | .error (.unexpectedChar c offset) => some ⟨offset, [c]⟩
  | .error (.uppercaseLetter c offset) => some ⟨offset, [c]⟩
  | .error (.danglingHyphen offset) => some ⟨offset, ['-']⟩
  | .error (.incompleteEquivalence offset) =>
      if (dropBytes? text (offset + 1)).bind List.head? = some '-' then some ⟨offset, ['<', '-']⟩
      else some ⟨offset, ['<']⟩
  | .error _ => none

-----------------------------------------------------------------------------------------
-- One item
-----------------------------------------------------------------------------------------

/-- What is read at an offset: the item, the characters that it takes, and those it leaves. -/
inductive Reading (offset : Nat) : Item → List Char → List Char → Prop
  | token {token rest} (named : token.WellNamed) (ends : token.IsAtom → EndsAtom rest)
    : Reading offset (.ok ⟨token, offset⟩) token.text.toList rest
  | hyphen {rest} (noAngle : '>' ∉ rest.head?)
    : Reading offset (.error (.danglingHyphen offset)) ['-'] rest
  | angle {rest} (noHyphen : '-' ∉ rest.head?)
    : Reading offset (.error (.incompleteEquivalence offset)) ['<'] rest
  | hyphenatedAngle {rest} (noAngle : '>' ∉ rest.head?)
    : Reading offset (.error (.incompleteEquivalence offset)) ['<', '-'] rest
  | uppercase {c rest} : Reading offset (.error (.uppercaseLetter c offset)) [c] rest
  | unexpected {c rest} : Reading offset (.error (.unexpectedChar c offset)) [c] rest

theorem not_mem_head? {c : Char} {rest : List Char} (other : ∀ tail, rest = c :: tail → False)
    : c ∉ rest.head? := by
  intro first
  obtain ⟨tail, rfl⟩ := List.head?_eq_some_iff.mp first
  exact other tail rfl

/-- Every lexeme is one of these readings. What it says of a token is known already, so that only
the errors are left, by cases on the first character.
-/
theorem reading_lexeme (offset : Nat) (c : Char) (rest : List Char)
    : Reading offset (lexeme offset c rest).item (lexeme offset c rest).text
        (lexeme offset c rest).rest := by
  cases found : (lexeme offset c rest).item with
  | ok next =>
      obtain ⟨placed, named, written, ends⟩ := faithful_lexeme offset c rest found
      obtain ⟨token, place⟩ := next
      cases placed
      rw [← written]
      exact .token named ends
  | error fault =>
      revert found
      unfold lexeme
      split
      case h_8 =>
        unfold hyphen
        split
        · nofun
        · next other =>
          rintro ⟨⟩
          exact .hyphen (not_mem_head? other)
      case h_9 =>
        unfold angle
        split
        · nofun
        · next other =>
          rintro ⟨⟩
          exact .hyphenatedAngle (not_mem_head? fun tail same => other tail (same ▸ rfl))
        · next other =>
          rintro ⟨⟩
          exact .angle (not_mem_head? other)
      case h_10 =>
        split
        · nofun
        · split
          · rintro ⟨⟩
            exact .uppercase
          · rintro ⟨⟩
            exact .unexpected
      all_goals nofun

variable {offset : Nat} {item : Item} {taken rest : List Char}

theorem Reading.offset?_eq (reading : Reading offset item taken rest)
    : offset? item = some offset := by
  cases reading <;> rfl

/-- A reading takes the span of its item. -/
theorem Reading.spanOf?_eq {front : List Char} (reading : Reading (width front) item taken rest)
    : spanOf? (front ++ (taken ++ rest)) item = some ⟨width front, taken⟩ := by
  have behind (tail : List Char)
      : dropBytes? (front ++ '<' :: tail) (width front + 1) = some tail :=
    dropBytes?_eq_some_iff.mpr ⟨front ++ ['<'], by simp, width_append front ['<']⟩
  cases reading with
  | angle noHyphen =>
      rw [spanOf?, List.singleton_append, behind]
      exact if_neg noHyphen
  | hyphenatedAngle =>
      rw [spanOf?, List.cons_append, behind]
      exact if_pos rfl
  | _ => rfl

/-- No blank is taken by a reading whose first character is none. -/
theorem Reading.solid (reading : Reading offset item taken rest)
    (first : ∀ c ∈ taken.head?, isBlank c = false)
    : ∀ c ∈ taken, isBlank c = false := by
  cases reading with
  | token named => exact named.solid
  | hyphenatedAngle => simp [isBlank]
  | _ => simpa using first

end Lexer

-----------------------------------------------------------------------------------------
-- All items
-----------------------------------------------------------------------------------------

/-- Spans that follow one another in a text which starts at an offset, with nothing but blanks
outside of them.
-/
inductive Tiles : Nat → List Char → List Span → Prop
  | nil {offset} : Tiles offset [] []
  | skip {offset c rest spans} (blank : isBlank c = true)
    (others : Tiles (offset + c.utf8Size) rest spans)
    : Tiles offset (c :: rest) spans
  | take {offset taken rest spans} (some : taken ≠ []) (solid : ∀ c ∈ taken, isBlank c = false)
    (others : Tiles (offset + width taken) rest spans)
    : Tiles offset (taken ++ rest) (⟨offset, taken⟩ :: spans)

theorem width_pos {text : List Char} (some : text ≠ []) : 0 < width text := by
  cases text with
  | nil => exact absurd rfl some
  | cons c rest =>
      have positive := c.utf8Size_pos
      rw [width_cons]
      omega

/-- The items of a text have spans that tile it, by induction along the reading. -/
theorem exists_tiles (front text : List Char)
    : ∃ spans : List Span,
        (itemsFrom (width front) text).map (spanOf? (front ++ text)) = spans.map some
        ∧ (itemsFrom (width front) text).map offset? = spans.map (some ·.start)
        ∧ Tiles (width front) text spans := by
  generalize place : width front = offset
  fun_induction itemsFrom offset text generalizing front with
  | case1 offset => exact ⟨[], rfl, rfl, .nil⟩
  | case2 offset c rest blank ih =>
      obtain ⟨spans, spanned, started, tiles⟩ := ih (front ++ [c]) (by simp [place])
      rw [List.append_assoc, List.singleton_append] at spanned
      exact ⟨spans, spanned, started, .skip blank tiles⟩
  | case3 offset c rest noBlank found ih =>
      have reading : Reading offset found.item found.text found.rest := reading_lexeme offset c rest
      have written : found.text ++ found.rest = c :: rest := text_append_rest offset c rest
      have some : found.text ≠ [] := text_ne_nil offset c rest
      subst place
      obtain ⟨spans, spanned, started, tiles⟩ := ih (front ++ found.text) (by simp)
      rw [List.append_assoc, written] at spanned
      have solid : ∀ d ∈ found.text, isBlank d = false := by
        refine reading.solid fun d first => ?_
        have same : (found.text ++ found.rest).head? = Option.some d := by
          rw [List.head?_append, Option.mem_def.mp first]
          rfl
        rw [written, List.head?_cons, Option.some_inj] at same
        simpa [← same] using noBlank
      refine ⟨⟨width front, found.text⟩ :: spans, ?_, ?_, ?_⟩
      · rw [List.map_cons, List.map_cons, spanned, ← written, reading.spanOf?_eq]
      · rw [List.map_cons, List.map_cons, started, reading.offset?_eq]
      · rw [← written]
        exact .take some solid tiles

variable {offset : Nat} {text : List Char} {spans : List Span}

/-- The spans of a tiled text lie in it, by induction on the tiling. -/
theorem Tiles.exists_place (tiles : Tiles offset text spans)
    : ∀ span ∈ spans, ∃ front back,
        text = front ++ span.text ++ back ∧ offset + width front = span.start := by
  induction tiles with
  | nil => simp
  | @skip offset c rest spans blank others ih =>
      intro span member
      obtain ⟨front, back, rfl, place⟩ := ih span member
      exact ⟨c :: front, back, rfl, by rw [width_cons]; omega⟩
  | @take offset taken rest spans some solid others ih =>
      intro span member
      rcases List.mem_cons.mp member with rfl | member
      · exact ⟨[], rest, rfl, rfl⟩
      · obtain ⟨front, back, rfl, place⟩ := ih span member
        exact ⟨taken ++ front, back, by simp, by rw [width_append]; omega⟩

theorem Tiles.start_ge (tiles : Tiles offset text spans)
    : ∀ span ∈ spans, offset ≤ span.start := by
  intro span member
  obtain ⟨front, back, _, place⟩ := tiles.exists_place span member
  omega

/-- No span starts before the one in front of it has stopped, by induction on the tiling. -/
theorem Tiles.pairwise_stop_le (tiles : Tiles offset text spans)
    : spans.Pairwise fun first second => first.stop ≤ second.start := by
  induction tiles with
  | nil => exact .nil
  | skip _ _ ih => exact ih
  | take _ _ others ih => exact .cons (fun span member => others.start_ge span member) ih

theorem Tiles.start_lt_stop (tiles : Tiles offset text spans)
    : ∀ span ∈ spans, span.start < span.stop := by
  induction tiles with
  | nil => simp
  | skip _ _ ih => exact ih
  | take some _ _ ih =>
      refine List.forall_mem_cons.mpr ⟨?_, ih⟩
      exact Nat.lt_add_of_pos_right (width_pos some)

/-- The characters in the spans of a tiled text are those that are not blank, by induction on the
tiling.
-/
theorem Tiles.isBlank_eq_false_iff (tiles : Tiles offset text spans) {front back : List Char}
    {c : Char} (cut : text = front ++ c :: back)
    : isBlank c = false ↔ ∃ span ∈ spans, span.Covers (offset + width front) := by
  induction tiles generalizing front with
  | nil => simp at cut
  | @skip offset d rest spans blank others ih =>
      cases front with
      | nil =>
          cases cut
          simp only [blank, Bool.true_eq_false, false_iff]
          rintro ⟨span, member, covers⟩
          have start := others.start_ge span member
          have positive := c.utf8Size_pos
          rw [Span.Covers, width_nil] at covers
          omega
      | cons e front =>
          cases cut
          rw [ih rfl, width_cons, Nat.add_assoc]
  | @take offset taken rest spans some solid others ih =>
      have behind {middle : List Char} (place : front = taken ++ middle)
          (cut : rest = middle ++ c :: back)
          : isBlank c = false
            ↔ ∃ span ∈ ⟨offset, taken⟩ :: spans, span.Covers (offset + width front) := by
        have outside : ¬ Span.Covers ⟨offset, taken⟩ (offset + width front) := by
          simp only [Span.Covers, Span.stop, place, width_append]
          omega
        have same : offset + width taken + width middle = offset + width front := by
          rw [place, width_append, Nat.add_assoc]
        rw [ih cut, same]
        simp only [List.mem_cons, exists_eq_or_imp, outside, false_or]
      rcases append_eq_append_cons_iff.mp cut with ⟨more, place, rfl⟩ | ⟨middle, place, cut⟩
      · have inside : Span.Covers ⟨offset, taken⟩ (offset + width front) := by
          have positive := c.utf8Size_pos
          simp only [Span.Covers, Span.stop, place, width_append, width_cons]
          omega
        have solid := solid c (place ▸ List.mem_append_right front List.mem_cons_self)
        exact ⟨fun _ => ⟨_, List.mem_cons_self, inside⟩, fun _ => solid⟩
      · exact behind place cut

/-- There are no more spans than characters that are not blank, by induction on the tiling. -/
theorem Tiles.length_le (tiles : Tiles offset text spans)
    : spans.length ≤ text.countP (!isBlank ·) := by
  induction tiles with
  | nil => exact Nat.le_refl _
  | skip blank _ ih => simpa [blank] using ih
  | @take offset taken rest spans some solid others ih =>
      have all : taken.countP (!isBlank ·) = taken.length := by
        rw [List.countP_eq_length]
        intro c member
        simp [solid c member]
      have positive := List.length_pos_iff.mpr some
      rw [List.length_cons, List.countP_append, all]
      omega

-----------------------------------------------------------------------------------------
-- Tokens or the first error
-----------------------------------------------------------------------------------------

namespace Lexer

/-- Items are tokens throughout, or tokens up to a first error. -/
theorem tokens_or_error (items : List Item)
    : (∃ tokens : List PlacedToken, items = tokens.map .ok)
      ∨ ∃ (tokens : List PlacedToken) (fault : SyntaxError) (rest : List Item),
          items = tokens.map .ok ++ .error fault :: rest := by
  induction items with
  | nil => exact .inl ⟨[], rfl⟩
  | cons item rest ih =>
      cases item with
      | error fault => exact .inr ⟨[], fault, rest, rfl⟩
      | ok next =>
          rcases ih with ⟨tokens, rfl⟩ | ⟨tokens, fault, behind, rfl⟩
          · exact .inl ⟨next :: tokens, rfl⟩
          · exact .inr ⟨next :: tokens, fault, behind, rfl⟩

theorem collect_map_ok_append_error (tokens : List PlacedToken) (fault : SyntaxError)
    (rest : List Item)
    : collect (tokens.map .ok ++ .error fault :: rest) = .error fault := by
  induction tokens with
  | nil => rfl
  | cons next tokens ih =>
      rw [List.map_cons, List.cons_append, collect, ih]
      rfl

theorem collect_eq_ok_iff {items : List Item} {tokens : List PlacedToken}
    : collect items = .ok tokens ↔ items = tokens.map .ok := by
  refine ⟨fun collected => ?_, fun same => same ▸ collect_map_ok tokens⟩
  rcases tokens_or_error items with ⟨others, rfl⟩ | ⟨others, fault, rest, rfl⟩
  · rw [collect_map_ok, Except.ok.injEq] at collected
    rw [collected]
  · rw [collect_map_ok_append_error] at collected
    cases collected

theorem collect_eq_error_iff {items : List Item} {fault : SyntaxError}
    : collect items = .error fault
      ↔ ∃ (tokens : List PlacedToken) (rest : List Item),
          items = tokens.map .ok ++ .error fault :: rest := by
  constructor
  · intro failed
    rcases tokens_or_error items with ⟨others, rfl⟩ | ⟨others, first, rest, rfl⟩
    · rw [collect_map_ok] at failed
      cases failed
    · rw [collect_map_ok_append_error, Except.error.injEq] at failed
      exact ⟨others, rest, by rw [failed]⟩
  · rintro ⟨tokens, rest, rfl⟩
    exact collect_map_ok_append_error tokens fault rest

end Lexer

-----------------------------------------------------------------------------------------
-- The whole text
-----------------------------------------------------------------------------------------

/-- What the items of a text say about it, errors and all that is read after them included. -/
structure ItemsTile (text : List Char) (spans : List Span) : Prop where
  /-- Every item has a span. -/
  spanned : (items text).map (spanOf? text) = spans.map some
  /-- A span starts at the offset of its item. -/
  started : (items text).map offset? = spans.map (some ·.start)
  rising : spans.Pairwise fun first second => first.start < second.start
  /-- Spans are cut out between characters. -/
  inside : ∀ span ∈ spans, span.IsIn text
  disjoint : spans.Pairwise fun first second => first.stop ≤ second.start
  /-- The characters that are not blank are those in the spans. -/
  exhaustive
    : ∀ {front c back},
        text = front ++ c :: back
        → (isBlank c = false ↔ ∃ span ∈ spans, span.Covers (width front))
  /-- The reading comes to its end. -/
  finite : (items text).length ≤ text.countP (!isBlank ·)
  /-- What is kept of the items are all tokens, or the first error where there is one. -/
  read : ∀ {tokens}, tokenize text = .ok tokens ↔ items text = tokens.map .ok
  failed
    : ∀ {fault},
        tokenize text = .error fault
        ↔ ∃ (tokens : List PlacedToken) (rest : List Item),
            items text = tokens.map .ok ++ .error fault :: rest

/-- The items of every text tile it. -/
theorem exists_itemsTile (text : List Char) : ∃ spans, ItemsTile text spans := by
  obtain ⟨spans, spanned, started, tiles⟩ := exists_tiles [] text
  have apart := tiles.pairwise_stop_le
  refine ⟨spans, spanned, started, ?_, ?_, apart, ?_, ?_, collect_eq_ok_iff, collect_eq_error_iff⟩
  · refine apart.imp_of_mem fun {first second} member _ stops => ?_
    exact Nat.lt_of_lt_of_le (tiles.start_lt_stop first member) stops
  · intro span member
    obtain ⟨front, back, cut, place⟩ := tiles.exists_place span member
    exact ⟨front, back, cut, by simpa using place⟩
  · intro front c back cut
    simpa using tiles.isBlank_eq_false_iff cut
  · have same := congrArg List.length spanned
    simp only [List.length_map] at same
    exact same ▸ tiles.length_le

/-- A hyphen is taken with the angle in front of it, and the one behind that starts anew. -/
example : items "<--->".toList
    = [.error (.incompleteEquivalence 0), .error (.danglingHyphen 2), .ok ⟨.implication, 3⟩] := by
  cbv

end SatClient
