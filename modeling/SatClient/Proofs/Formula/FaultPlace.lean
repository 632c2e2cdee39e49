import SatClient.Formula.SyntaxError
import SatClient.Proofs.Formula.EarliestFault
import SatClient.Proofs.Formula.Spans

/-! Where faults are reported. The offset of a fault cuts the text in two in front of its end, and
what the fault tells is what stands there: so the caret always finds its column. Faults without an
offset are about the text as a whole.
-/

namespace SatClient

open Text Lexer

-----------------------------------------------------------------------------------------
-- What a fault says about its place
-----------------------------------------------------------------------------------------

namespace SyntaxError

/-- A text begins with what is reported. -/
def BeginsAt (text : List Char) : SyntaxError → Prop
  | unexpectedChar c _ => [c] <+: text
  | uppercaseLetter c _ => [c] <+: text
  | danglingHyphen _ => ['-'] <+: text ∧ ¬ ['-', '>'] <+: text
  | incompleteEquivalence _ => ['<'] <+: text ∧ ¬ ['<', '-', '>'] <+: text
  | unexpectedToken found _ _ => found.text.toList <+: text
  | unclosedParen _ => ['('] <+: text
  | _ => False

/-- Faults for which a text has no tokens. -/
inductive IsLexical : SyntaxError → Prop
  | unexpectedChar (c : Char) (offset : Nat) : IsLexical (.unexpectedChar c offset)
  | uppercaseLetter (c : Char) (offset : Nat) : IsLexical (.uppercaseLetter c offset)
  | danglingHyphen (offset : Nat) : IsLexical (.danglingHyphen offset)
  | incompleteEquivalence (offset : Nat) : IsLexical (.incompleteEquivalence offset)

end SyntaxError

-----------------------------------------------------------------------------------------
-- Faults of texts without tokens
-----------------------------------------------------------------------------------------

variable {offset : Nat} {fault : SyntaxError} {taken rest : List Char}

theorem mem_head?_of_cons_prefix {c : Char} {tail rest : List Char} (front : c :: tail <+: rest)
    : c ∈ rest.head? := by
  obtain ⟨_, rfl⟩ := front
  rfl

namespace Lexer

theorem Reading.isLexical (reading : Reading offset (.error fault) taken rest)
    : fault.IsLexical := by
  cases reading <;> constructor

/-- An error tells how the characters begin that it is read from. -/
theorem Reading.beginsAt (reading : Reading offset (.error fault) taken rest)
    : fault.BeginsAt (taken ++ rest) := by
  cases reading with
  | hyphen noAngle =>
      refine ⟨List.prefix_append .., fun whole => noAngle ?_⟩
      exact mem_head?_of_cons_prefix (List.cons_prefix_cons.mp whole).2
  | angle noHyphen =>
      refine ⟨List.prefix_append .., fun whole => noHyphen ?_⟩
      exact mem_head?_of_cons_prefix (List.cons_prefix_cons.mp whole).2
  | hyphenatedAngle noAngle =>
      refine ⟨⟨'-' :: rest, rfl⟩, fun whole => noAngle ?_⟩
      have behind := (List.cons_prefix_cons.mp whole).2
      exact mem_head?_of_cons_prefix (List.cons_prefix_cons.mp behind).2
  | uppercase => exact List.prefix_append ..
  | unexpected => exact List.prefix_append ..

end Lexer

theorem EndsAtom.of_append {front back : List Char} (ends : EndsAtom (front ++ back))
    : EndsAtom front := by
  intro c first
  refine ends c ?_
  rw [List.head?_append, Option.mem_def.mp first]
  rfl

/-- The first error among the items of a text is read behind a front whose items are the tokens
before it, by induction along the reading. A variable at the end of that front still ends there, as
nothing follows that could go on with it.
-/
theorem exists_front_of_itemsFrom {text : List Char} {tokens : List PlacedToken}
    {behind : List Item}
    (read : itemsFrom offset text = tokens.map .ok ++ .error fault :: behind)
    : ∃ front taken rest,
        text = front ++ (taken ++ rest)
        ∧ taken ≠ []
        ∧ itemsFrom offset front = tokens.map .ok
        ∧ Reading (offset + width front) (.error fault) taken rest := by
  fun_induction itemsFrom offset text generalizing tokens with
  | case1 offset => cases tokens <;> cases read
  | case2 offset c rest blank ih =>
      obtain ⟨front, taken, rest, rfl, some, items, reading⟩ := ih read
      refine ⟨c :: front, taken, rest, rfl, some, ?_, ?_⟩
      · rw [itemsFrom, if_pos blank, items]
      · rw [width_cons, ← Nat.add_assoc]
        exact reading
  | @case3 offset c rest noBlank found ih =>
      have written : found.text ++ found.rest = c :: rest := text_append_rest offset c rest
      cases tokens with
      | nil =>
          obtain ⟨item, _⟩ := List.cons.inj read
          have reading : Reading offset found.item found.text found.rest :=
            reading_lexeme offset c rest
          rw [item] at reading
          exact ⟨[], found.text, found.rest, written.symm, text_ne_nil offset c rest,
            by rw [itemsFrom]; rfl, reading⟩
      | cons next tokens =>
          obtain ⟨item, read⟩ := List.cons.inj read
          obtain ⟨placed, named, same, ends⟩ := faithful_lexeme offset c rest item
          obtain ⟨front, taken, others, left, some, items, reading⟩ := ih read
          have endsInFront : next.token.IsAtom → EndsAtom front := by
            intro isAtom
            have ends : EndsAtom found.rest := ends isAtom
            rw [left] at ends
            exact ends.of_append
          refine ⟨found.text ++ front, taken, others, ?_, some, ?_, ?_⟩
          · rw [← written, left, List.append_assoc]
          · have first := itemsFrom_token_append offset named endsInFront
            have inPlace : (⟨next.token, offset⟩ : PlacedToken) = next := by rw [← placed]
            rw [same, items, inPlace] at first
            exact first
          · rw [width_append, ← Nat.add_assoc]
            exact reading

/-- A text without tokens is faulty at a place up to which it has some. -/
theorem exists_front_of_tokenize {text : List Char} (failed : Lexer.tokenize text = .error fault)
    : fault.IsLexical
      ∧ ∃ front back tokens,
          text = front ++ back
          ∧ fault.offset? = some (width front)
          ∧ back ≠ []
          ∧ fault.BeginsAt back
          ∧ Lexer.tokenize front = .ok tokens := by
  obtain ⟨tokens, behind, read⟩ := collect_eq_error_iff.mp failed
  obtain ⟨front, taken, rest, cut, some, items, reading⟩ := exists_front_of_itemsFrom read
  rw [Nat.zero_add] at reading
  refine ⟨reading.isLexical, front, taken ++ rest, tokens, cut, reading.offset?_eq, ?_,
    reading.beginsAt, collect_eq_ok_iff.mpr items⟩
  exact List.append_ne_nil_of_left_ne_nil some rest

-----------------------------------------------------------------------------------------
-- Faults of tokens
-----------------------------------------------------------------------------------------

/-- Every token of a text is written at its offset. -/
theorem exists_front_of_mem {text : List Char} {tokens : List PlacedToken} {next : PlacedToken}
    (read : Lexer.tokenize text = .ok tokens) (member : next ∈ tokens)
    : ∃ front back,
        text = front ++ back
        ∧ width front = next.offset
        ∧ back ≠ []
        ∧ next.token.text.toList <+: back := by
  obtain ⟨spans, spanned, _, tiles⟩ := exists_tiles [] text
  have items : itemsFrom 0 text = tokens.map .ok := collect_eq_ok_iff.mp read
  rw [width_nil, items, List.map_map] at spanned
  have inSpans : ⟨next.offset, next.token.text.toList⟩ ∈ spans := by
    have known := List.mem_map_of_mem (f := spanOf? text ∘ .ok) member
    rw [List.nil_append] at spanned
    rw [spanned] at known
    simpa [spanOf?] using known
  obtain ⟨front, back, cut, place⟩ := tiles.exists_place _ inSpans
  have wide := tiles.start_lt_stop _ inSpans
  refine ⟨front, next.token.text.toList ++ back, by simpa using cut, by simpa using place, ?_,
    List.prefix_append ..⟩
  intro empty
  rw [Span.stop, (List.append_eq_nil_iff.mp empty).1] at wide
  exact Nat.lt_irrefl _ wide

/-- A fault that lies in tokens: it is no lexical one, and has an offset only where a token stands
whose text is that reported.
-/
structure SyntaxError.LiesIn (fault : SyntaxError) (tokens : List PlacedToken) : Prop where
  notLexical : ¬ fault.IsLexical
  exists_token
    : ∀ {offset},
        fault.offset? = some offset
        → ∃ next ∈ tokens,
            next.offset = offset
            ∧ ∀ {back}, next.token.text.toList <+: back → fault.BeginsAt back

theorem SyntaxError.liesIn_of_offset?_eq_none {tokens : List PlacedToken}
    (notLexical : ¬ fault.IsLexical) (placeless : fault.offset? = none)
    : fault.LiesIn tokens :=
  ⟨notLexical, fun placed => by cases placeless.symm.trans placed⟩

theorem EarliestFault.liesIn {tokens : List PlacedToken} (earliest : EarliestFault tokens fault)
    : fault.LiesIn tokens := by
  cases fault with
  | unexpectedToken found place expected =>
      obtain ⟨front, rest, rfl, _⟩ := earliest
      refine ⟨by rintro ⟨⟩, ?_⟩
      rintro _ ⟨⟩
      exact ⟨⟨found, place⟩, by simp, rfl, id⟩
  | unclosedParen place =>
      obtain ⟨_, _, front, rest, rfl, _⟩ := earliest
      refine ⟨by rintro ⟨⟩, ?_⟩
      rintro _ ⟨⟩
      refine ⟨⟨.openParen, place⟩, by simp, rfl, fun {back} written => ?_⟩
      simpa [Token.text, SyntaxError.BeginsAt] using written
  | unexpectedEnd => exact SyntaxError.liesIn_of_offset?_eq_none (by rintro ⟨⟩) rfl
  | tooDeep => exact SyntaxError.liesIn_of_offset?_eq_none (by rintro ⟨⟩) rfl
  | _ => exact earliest.elim

theorem liesIn_of_checkTokens {tokens : List PlacedToken}
    (refused : checkTokens tokens = .error fault)
    : fault.LiesIn tokens := by
  cases tokens with
  | nil =>
      cases refused
      exact SyntaxError.liesIn_of_offset?_eq_none (by rintro ⟨⟩) rfl
  | cons next rest => exact (earliestFault_of_checkTokens refused).liesIn

-----------------------------------------------------------------------------------------
-- The caret
-----------------------------------------------------------------------------------------

theorem charsBefore?_append (front back : List Char)
    : charsBefore? (front ++ back) (width front) = some front.length := by
  induction front with
  | nil => cases back <;> rfl
  | cons c rest ih =>
      have positive := c.utf8Size_pos
      rw [List.cons_append, width_cons, charsBefore?, if_pos (Nat.le_add_right _ _),
        Nat.add_sub_cancel_left, ih]
      · rfl
      · omega

/-- The caret stands below the first character behind a place where a text can be cut. -/
theorem pointer_eq_of_cut {text : String} {front back : List Char}
    (cut : text.toList = front ++ back)
    : pointer text (some (width front))
      = "  " ++ text ++ "\n  " ++ String.ofList (List.replicate front.length ' ') ++ "^" := by
  simp only [pointer, cut, charsBefore?_append, Option.getD_some]

-----------------------------------------------------------------------------------------
-- Faults of texts
-----------------------------------------------------------------------------------------

/-- What the fault of a text says about the place where the text is faulty. -/
structure PointsAtFault (text : String) (fault : SyntaxError) : Prop where
  /-- An offset cuts the text in front of its end. What is reported stands behind the cut, and the
  caret below it.
  -/
  placed
    : ∀ {offset},
        fault.offset? = some offset
        → ∃ front back,
            text.toList = front ++ back
            ∧ width front = offset
            ∧ back ≠ []
            ∧ fault.BeginsAt back
            ∧ pointer text (some offset)
              = "  " ++ text ++ "\n  " ++ String.ofList (List.replicate front.length ' ') ++ "^"
  /-- Up to a lexical fault a text has tokens. -/
  readable
    : fault.IsLexical
      → ∃ front back tokens,
          text.toList = front ++ back
          ∧ fault.offset? = some (width front)
          ∧ Lexer.tokenize front = .ok tokens
  placeless : fault.offset? = none ↔ fault = .empty ∨ fault = .unexpectedEnd ∨ fault = .tooDeep

theorem SyntaxError.offset?_eq_none_iff (fault : SyntaxError)
    : fault.offset? = none ↔ fault = .empty ∨ fault = .unexpectedEnd ∨ fault = .tooDeep := by
  cases fault <;> simp [offset?]

/-- A text that fails the check has no tokens, or tokens that fail it. -/
theorem checkText_eq_error_iff {text : String}
    : checkText text = .error fault
      ↔ Lexer.tokenize text.toList = .error fault
        ∨ ∃ tokens,
            Lexer.tokenize text.toList = .ok tokens ∧ checkTokens tokens = .error fault := by
  cases read : Lexer.tokenize text.toList with
  | error other => simp [checkText, read, bind, Except.bind]
  | ok tokens => simp [checkText_of_tokenize read]

theorem pointsAtFault_of_tokenize {text : String}
    (unreadable : Lexer.tokenize text.toList = .error fault)
    : PointsAtFault text fault := by
  obtain ⟨_, front, back, tokens, cut, place, some, begins, readable⟩ :=
    exists_front_of_tokenize unreadable
  refine ⟨?_, fun _ => ⟨front, back, tokens, cut, place, readable⟩, fault.offset?_eq_none_iff⟩
  intro offset placed
  rw [place, Option.some_inj] at placed
  rw [← placed]
  exact ⟨front, back, cut, rfl, some, begins, pointer_eq_of_cut cut⟩

theorem pointsAtFault_of_checkTokens {text : String} {tokens : List PlacedToken}
    (read : Lexer.tokenize text.toList = .ok tokens) (refused : checkTokens tokens = .error fault)
    : PointsAtFault text fault := by
  obtain ⟨notLexical, exists_token⟩ := liesIn_of_checkTokens refused
  refine ⟨?_, fun lexical => absurd lexical notLexical, fault.offset?_eq_none_iff⟩
  intro offset placed
  obtain ⟨next, member, rfl, begins⟩ := exists_token placed
  obtain ⟨front, back, cut, place, some, written⟩ := exists_front_of_mem read member
  rw [← place]
  exact ⟨front, back, cut, rfl, some, begins written, pointer_eq_of_cut cut⟩

/-- What is reported of a text points at the fault in it, and is lexical exactly where the text has
no tokens.
-/
theorem checkText_pointsAtFault (text : String)
    : (∀ {fault}, checkText text = .error fault → PointsAtFault text fault)
      ∧ ∀ {fault},
          checkText text = .error fault ∧ fault.IsLexical
          ↔ Lexer.tokenize text.toList = .error fault := by
  constructor
  · intro fault failed
    rcases checkText_eq_error_iff.mp failed with unreadable | ⟨tokens, read, refused⟩
    · exact pointsAtFault_of_tokenize unreadable
    · exact pointsAtFault_of_checkTokens read refused
  · intro fault
    constructor
    · rintro ⟨failed, lexical⟩
      rcases checkText_eq_error_iff.mp failed with unreadable | ⟨tokens, _, refused⟩
      · exact unreadable
      · exact absurd lexical (liesIn_of_checkTokens refused).notLexical
    · intro unreadable
      exact ⟨checkText_eq_error_iff.mpr (.inl unreadable),
        (exists_front_of_tokenize unreadable).1⟩

/-- An arrow that is not complete and a parenthesis that stays open, each behind a wide blank. -/
theorem checkText_pointsAtFault_wide
    : checkText "\u3000<-b" = .error (.incompleteEquivalence 3)
      ∧ PointsAtFault "\u3000<-b" (.incompleteEquivalence 3)
      ∧ checkText "(\u3000(a" = .error (.unclosedParen 4)
      ∧ PointsAtFault "(\u3000(a" (.unclosedParen 4) := by
  have arrow : checkText "\u3000<-b" = .error (.incompleteEquivalence 3) := by
    have characters : "\u3000<-b".toList = ['\u3000', '<', '-', 'b'] := by decide
    have first : itemsFrom 0 ['\u3000', '<', '-', 'b']
        = .error (.incompleteEquivalence 3) :: itemsFrom 5 ['b'] := by
      rw [itemsFrom, if_pos (by decide), itemsFrom, if_neg (by decide)]
      rfl
    rw [checkText, characters, Lexer.tokenize, items, first]
    rfl
  have paren : checkText "(\u3000(a" = .error (.unclosedParen 4) := by
    have valid : Layout.Valid
        ⟨[⟨[], .openParen⟩, ⟨['\u3000'], .openParen⟩, ⟨[], .atom "a"⟩], []⟩ := by
      refine ⟨⟨by decide, ?_, by simp [Separated, Token.IsAtom]⟩, rfl⟩
      simp only [List.forall_mem_cons]
      exact ⟨trivial, trivial, ⟨'a', [], rfl, rfl, rfl⟩, by simp⟩
    have read : Lexer.tokenize "(\u3000(a".toList
        = .ok [⟨.openParen, 0⟩, ⟨.openParen, 4⟩, ⟨.atom "a", 5⟩] := valid.tokenize
    rw [checkText_of_tokenize read, checkTokens_cons]
    rfl
  exact ⟨arrow, (checkText_pointsAtFault _).1 arrow, paren, (checkText_pointsAtFault _).1 paren⟩

end SatClient
