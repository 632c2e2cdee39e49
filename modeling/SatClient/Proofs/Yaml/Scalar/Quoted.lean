import SatClient.Proofs.Yaml.Scalar.Plain

/-! Quoted scalars. Between quotes stand words, each character of which is spelled in some way, and
gaps between them. What is written between single or double quotes has this form, and everything of
this form is read back.
-/

namespace SatClient.Yaml

open Gap (EndsGap)

-----------------------------------------------------------------------------------------
-- What stands between quotes
-----------------------------------------------------------------------------------------

/-- The quote of a style. -/
def quoteMark (isSingle : Bool) : Char := if isSingle then '\'' else '"'

/-- A character is spelled by some others: they are read as it is. -/
structure IsSpelled (isSingle : Bool) (written : List Char) (c : Char) : Prop where
  solid : ∃ d ∈ written.head?, isSolid (some d) = true
  read
    : ∀ start fuel run rest mark,
        readQuotedRun isSingle start (fuel + 1) run ⟨written ++ rest, mark⟩
        = readQuotedRun isSingle start fuel (run ++ [c]) ⟨rest, mark.advance written.length⟩

theorem isSolid_quoteMark (isSingle : Bool) : isSolid (some (quoteMark isSingle)) = true := by
  cases isSingle <;> rfl

/-- A word ends before a text. -/
def EndsRun (isSingle : Bool) (rest : List Char) : Prop :=
  ∀ start fuel run mark,
    readQuotedRun isSingle start fuel run ⟨rest, mark⟩ = .ok (run, ⟨rest, mark⟩, false)

/-- A gap as it is written, and the part of the text that it stands for. -/
inductive IsGap : List Char → List Char → Prop
  | spaces (count : Nat) : IsGap (List.replicate (count + 1) ' ') (List.replicate (count + 1) ' ')
  | breaks {c breaks} (count : Nat)
    (all : ∀ d ∈ c :: breaks, isBreak d = true ∧ isPrintable d = true) (noFeed : c ≠ '\n')
    : IsGap (c :: breaks ++ List.replicate (count + 1) ' ') (c :: breaks)

/-- What stands between quotes for a text, with the spelling of each character. -/
inductive Quotes (isSingle : Bool) (spell : Char → List Char) : List Char → List Char → Prop
  | word {word} (spelled : ∀ c ∈ word, IsSpelled isSingle (spell c) c)
    : Quotes isSingle spell (word.flatMap spell) word
  | gap {word gapWritten gap written text}
    (spelled : ∀ c ∈ word, IsSpelled isSingle (spell c) c) (isGap : IsGap gapWritten gap)
    (starts : EndsGap written) (others : Quotes isSingle spell written text)
    : Quotes isSingle spell (word.flatMap spell ++ (gapWritten ++ written)) (word ++ (gap ++ text))

-----------------------------------------------------------------------------------------
-- Reading it
-----------------------------------------------------------------------------------------

section Reading

variable {isSingle : Bool} {spell : Char → List Char} {fuel : Nat} {start mark : Mark}

theorem endsRun_of_gap {c : Char} (gap : isSolid (some c) = false) (rest : List Char)
    : EndsRun isSingle (c :: rest) := by
  have stops : (isBlank c || isBreak c) = true := by
    simp only [isSolid, Bool.and_eq_false_iff, Bool.not_eq_false'] at gap
    simpa using gap
  intro start fuel run mark
  cases fuel with
  | zero => rfl
  | succ fuel => simp only [readQuotedRun, Cursor.head?_cons, stops, if_true]

/-- The quote that closes a text ends its last word, unless it is written twice. -/
theorem endsRun_of_quote {rest : List Char} (closes : isSingle = true → rest.head? ≠ some '\'')
    : EndsRun isSingle (quoteMark isSingle :: rest) := by
  intro start fuel run mark
  cases fuel with
  | zero => rfl
  | succ fuel =>
      cases isSingle with
      | false => rfl
      | true =>
          have alone : (Cursor.ahead? ⟨'\'' :: rest, mark⟩ 1 == some '\'') = false := by
            simpa [Cursor.ahead?, ← List.head?_eq_getElem?] using closes rfl
          simp [readQuotedRun, quoteMark, isBlank, isBreak, alone]

/-- A word is read character by character. -/
theorem readQuotedRun_word {word rest : List Char}
    (spelled : ∀ c ∈ word, IsSpelled isSingle (spell c) c) (ends : EndsRun isSingle rest)
    (enough : word.length ≤ fuel) (run : List Char)
    : readQuotedRun isSingle start fuel run ⟨word.flatMap spell ++ rest, mark⟩
      = .ok (run ++ word, ⟨rest, mark.advance (word.flatMap spell).length⟩, false) := by
  induction word generalizing fuel run mark with
  | nil => simpa using ends start fuel run mark
  | cons c word ih =>
      rw [List.length_cons] at enough
      obtain ⟨fuel, rfl⟩ : ∃ less, fuel = less + 1 := ⟨fuel - 1, by omega⟩
      have first := spelled c List.mem_cons_self
      rw [List.flatMap_cons, List.append_assoc, first.read,
        ih (fun d member => spelled d (List.mem_cons_of_mem c member)) (by omega)]
      simp [Mark.advance_advance]

theorem length_le_flatMap {word : List Char} (spelled : ∀ c ∈ word, IsSpelled isSingle (spell c) c)
    : word.length ≤ (word.flatMap spell).length := by
  induction word with
  | nil => exact Nat.le_refl _
  | cons c word ih =>
      obtain ⟨d, isHead, -⟩ := (spelled c List.mem_cons_self).solid
      obtain ⟨others, same⟩ := List.head?_eq_some_iff.mp isHead
      have more := ih fun d member => spelled d (List.mem_cons_of_mem c member)
      simp only [List.flatMap_cons, List.length_append, List.length_cons, same]
      omega

theorem IsGap.exists_first {written gap : List Char} (isGap : IsGap written gap)
    : ∃ c others, written = c :: others ∧ isSolid (some c) = false := by
  cases isGap with
  | spaces count => exact ⟨' ', List.replicate count ' ', rfl, rfl⟩
  | @breaks c breaks count all noFeed =>
      refine ⟨c, _, rfl, ?_⟩
      simp [isSolid, (all c List.mem_cons_self).1]

/-- A gap is read to its end, which is not at the start of a line. -/
theorem IsGap.read_eq {written gap rest : List Char} (isGap : IsGap written gap)
    (ends : EndsGap rest) (start : Mark) (inLine : 0 < mark.column)
    : ∃ found next,
        Gap.read 0 start (written ++ rest).length .empty ⟨written ++ rest, mark⟩
        = .ok (found, ⟨rest, next⟩)
        ∧ found.text = gap
        ∧ 0 < next.column := by
  cases isGap with
  | spaces count =>
      exact ⟨_, _, Gap.read_spaces ends (by simp) .empty, rfl, Nat.add_pos_left inLine _⟩
  | @breaks c breaks count all noFeed =>
      rw [List.append_assoc]
      have enough
          : breaks.length + 1 + (count + 1)
            ≤ (c :: breaks ++ (List.replicate (count + 1) ' ' ++ rest)).length := by
        simp
        omega
      obtain ⟨next, read, column⟩ := Gap.read_breaks ends all enough
      refine ⟨_, next, read, ?_, by omega⟩
      simp only [Gap.text]
      split
      next same => cases same
      next same => exact absurd (by simpa using same) noFeed
      next first _ same =>
        cases same
        rfl

/-- One word is read, and then the quote or the gap behind it. -/
theorem readQuotedFrom_word {word rest : List Char} {c : Char}
    (spelled : ∀ d ∈ word, IsSpelled isSingle (spell d) d) (ends : EndsRun isSingle (c :: rest))
    (inLine : 0 < mark.column) (before : List Char)
    : readQuotedFrom isSingle start (fuel + 1) before ⟨word.flatMap spell ++ c :: rest, mark⟩
      = (let behind := mark.advance (word.flatMap spell).length
        if c = quoteMark isSingle then .ok ⟨before ++ word, false, ⟨rest, behind.advance 1⟩⟩
        else do
          let (gap, next) ← Gap.read 0 start (c :: rest).length .empty ⟨c :: rest, behind⟩
          readQuotedFrom isSingle start fuel (before ++ word ++ gap.text) next) := by
  have enough : word.length ≤ (word.flatMap spell ++ c :: rest).length := by
    have short := length_le_flatMap spelled
    rw [List.length_append]
    omega
  have notStart : mark.column ≠ 0 := by omega
  rw [readQuotedFrom, Cursor.atDocumentIndicator_of_column_ne notStart,
    readQuotedRun_word spelled ends enough]
  by_cases closes : c = quoteMark isSingle
  · simp [closes, quoteMark, bind, Except.bind]
  · simp [quoteMark, bind, Except.bind]

/-- What stands between quotes is read up to the quote that closes it, by induction on the words. -/
theorem Quotes.readQuotedFrom_eq {written text rest : List Char}
    (quotes : Quotes isSingle spell written text)
    (closes : isSingle = true → rest.head? ≠ some '\'') (inLine : 0 < mark.column)
    (enough : written.length < fuel) (before : List Char)
    : ∃ next,
        readQuotedFrom isSingle start fuel before ⟨written ++ quoteMark isSingle :: rest, mark⟩
        = .ok ⟨before ++ text, false, ⟨rest, next⟩⟩ := by
  induction quotes generalizing fuel before mark with
  | @word word spelled =>
      obtain ⟨fuel, rfl⟩ : ∃ less, fuel = less + 1 := ⟨fuel - 1, by omega⟩
      exact ⟨_, by rw [readQuotedFrom_word spelled (endsRun_of_quote closes) inLine, if_pos rfl]⟩
  | @gap word gapWritten gap written text spelled isGap starts others ih =>
      obtain ⟨fuel, rfl⟩ : ∃ less, fuel = less + 1 := ⟨fuel - 1, by omega⟩
      have ends : EndsGap (written ++ quoteMark isSingle :: rest) := by
        cases written with
        | nil => exact .cons (isSolid_quoteMark isSingle) rest
        | cons d others => exact .cons (starts d rfl) _
      obtain ⟨c, behind, rfl, isFirst⟩ := isGap.exists_first
      have notQuote : c ≠ quoteMark isSingle := by
        rintro rfl
        rw [isSolid_quoteMark] at isFirst
        cases isFirst
      have behindWord : 0 < (mark.advance (word.flatMap spell).length).column :=
        Nat.add_pos_left inLine _
      obtain ⟨found, middle, read, isText, inLine'⟩ := isGap.read_eq ends start behindWord
      have shorter : written.length < fuel := by
        simp only [List.length_append, List.length_cons] at enough
        omega
      obtain ⟨next, others_eq⟩ := ih inLine' shorter (before ++ word ++ gap)
      refine ⟨next, ?_⟩
      simp only [List.append_assoc, List.cons_append] at read others_eq ⊢
      rw [readQuotedFrom_word spelled (endsRun_of_gap isFirst _) inLine, if_neg notQuote]
      dsimp only
      rw [read]
      simp only [bind, Except.bind, isText, List.append_assoc, others_eq]

theorem Quotes.readQuoted_eq {written text rest : List Char}
    (quotes : Quotes isSingle spell written text)
    (closes : isSingle = true → rest.head? ≠ some '\'') (mark : Mark)
    : ∃ next,
        readQuoted isSingle
          ⟨quoteMark isSingle :: written ++ quoteMark isSingle :: rest, mark⟩
        = .ok ⟨text, false, ⟨rest, next⟩⟩ := by
  have enough
      : written.length
        < (quoteMark isSingle :: written ++ quoteMark isSingle :: rest).length + 1 := by
    simp
    omega
  exact quotes.readQuotedFrom_eq closes (Nat.succ_pos mark.column) enough []

end Reading

-----------------------------------------------------------------------------------------
-- Single quotes
-----------------------------------------------------------------------------------------

/-- A character between single quotes. -/
def doubled (c : Char) : List Char := if c = '\'' then ['\'', '\''] else [c]

theorem isSpelled_doubled {c : Char} (solid : isSolid (some c) = true)
    : IsSpelled true (doubled c) c := by
  obtain ⟨notBlank, notBreak⟩ := isSolid_some_iff.mp solid
  by_cases isQuote : c = '\''
  · subst isQuote
    exact ⟨⟨'\'', rfl, rfl⟩, fun start fuel run rest mark => rfl⟩
  · have same : doubled c = [c] := if_neg isQuote
    rw [same]
    refine ⟨⟨c, rfl, solid⟩, fun start fuel run rest mark => ?_⟩
    simp [readQuotedRun, notBlank, notBreak, isQuote]

/-- A text that can stand between single quotes, as far as it has not been read. Line feeds are
left to other styles.
-/
structure IsSingle (text : List Char) : Prop where
  printable : ∀ c ∈ text, isPrintable c = true
  noFeed : '\n' ∉ text
  noSpaceBreak : Written.hasPair (· == ' ') isBreak text = false
  noBreakSpace : Written.hasPair isBreak (· == ' ') text = false

theorem IsSingle.of_append {front back : List Char} (single : IsSingle (front ++ back))
    : IsSingle back where
  printable c member := single.printable c (List.mem_append_right front member)
  noFeed member := single.noFeed (List.mem_append_right front member)
  noSpaceBreak := Written.hasPair_of_append single.noSpaceBreak
  noBreakSpace := Written.hasPair_of_append single.noBreakSpace

theorem isSingle_of_allowsSingle {text : List Char} (allows : Written.allowsSingle text = true)
    (noFeed : '\n' ∉ text)
    : IsSingle text := by
  simp only [Written.allowsSingle, Written.needsEscapes, Bool.and_eq_true, Bool.not_eq_true',
    Bool.or_eq_false_iff, Bool.not_eq_false', List.all_eq_true] at allows
  exact ⟨allows.1.1, noFeed, allows.1.2, allows.2⟩

namespace Written

/-- Within a line every character is doubled or not on its own. -/
theorem quote_append {front : List Char} (inLine : ∀ c ∈ front, isBreak c = false)
    (back : List Char)
    : quote false (front ++ back) = front.flatMap doubled ++ quote false back := by
  induction front with
  | nil => rfl
  | cons c front ih =>
      have notBreak := inLine c List.mem_cons_self
      rw [List.cons_append, quote, ih fun d member => inLine d (List.mem_cons_of_mem c member)]
      simp [notBreak, doubled]

theorem quote_breaks {breaks : List Char} (all : ∀ c ∈ breaks, isBreak c = true)
    (back : List Char)
    : quote true (breaks ++ back) = breaks ++ quote true back := by
  induction breaks with
  | nil => rfl
  | cons c breaks ih =>
      rw [List.cons_append, quote, ih fun d member => all d (List.mem_cons_of_mem c member)]
      simp [all c List.mem_cons_self]

/-- A line starts with the indentation. -/
theorem quote_true {text : List Char} (noBreak : ∀ c ∈ text.head?, isBreak c = false)
    : quote true text = indentation ++ quote false text := by
  cases text with
  | nil => rfl
  | cons c text => simp [quote, noBreak c rfl]

/-- Behind breaks comes a line with its indentation. -/
theorem quote_next {c : Char} {breaks tail : List Char}
    (all : ∀ d ∈ c :: breaks, isBreak d = true) (other : ∀ d ∈ tail.head?, isBreak d = false)
    : quote false (c :: breaks ++ tail)
      = c :: breaks ++ List.replicate 4 ' ' ++ quote false tail := by
  obtain ⟨isFirst, others⟩ := List.forall_mem_cons.mp all
  rw [List.cons_append, quote, if_pos isFirst, quote_breaks others, quote_true other]
  simp [indentation]

theorem quote_spaces (count : Nat) (tail : List Char)
    : quote false (List.replicate count ' ' ++ tail)
      = List.replicate count ' ' ++ quote false tail := by
  rw [quote_append (by simp [isBreak])]
  simp [List.flatMap_replicate, doubled]

end Written

theorem endsGap_quote {text : List Char} (solid : ∀ c ∈ text.head?, isSolid (some c) = true)
    : EndsGap (Written.quote false text) := by
  cases text with
  | nil => exact .nil
  | cons c text =>
      have isFirst := solid c rfl
      obtain ⟨-, notBreak⟩ := isSolid_some_iff.mp isFirst
      by_cases isQuote : c = '\''
      · subst isQuote
        exact .cons rfl _
      · simpa [Written.quote, notBreak, isQuote] using EndsGap.cons isFirst _

/-- Behind spaces there is no break. -/
theorem IsSingle.solid_of_spaces {count : Nat} {rest : List Char}
    (single : IsSingle (List.replicate (count + 1) ' ' ++ rest)) (other : rest.head? ≠ some ' ')
    : ∀ c ∈ rest.head?, isSolid (some c) = true := by
  intro c isHead
  obtain ⟨others, rfl⟩ := List.head?_eq_some_iff.mp isHead
  rw [List.replicate_succ', List.append_assoc] at single
  have spaced := single.of_append
  rw [isSolid_some_iff]
  constructor
  · rw [Bool.eq_false_iff]
    intro blank
    obtain rfl := eq_space_of_isBlank blank (spaced.printable c (by simp))
    exact other rfl
  · have apart := spaced.noSpaceBreak
    simp only [List.singleton_append, Written.hasPair, Bool.or_eq_false_iff] at apart
    simpa using apart.1

/-- Behind breaks there is no space. -/
theorem IsSingle.solid_of_breaks {c : Char} {breaks rest : List Char}
    (single : IsSingle (c :: breaks ++ rest)) (all : ∀ d ∈ c :: breaks, isBreak d = true)
    (other : ∀ d ∈ rest.head?, isBreak d = false)
    : ∀ d ∈ rest.head?, isSolid (some d) = true := by
  intro d isHead
  obtain ⟨others, rfl⟩ := List.head?_eq_some_iff.mp isHead
  rw [isSolid_some_iff]
  refine ⟨?_, other d rfl⟩
  rw [Bool.eq_false_iff]
  intro blank
  obtain rfl := eq_space_of_isBlank blank (single.printable d (by simp))
  obtain ⟨front, last, same⟩ : ∃ front last, c :: breaks = front ++ [last] :=
    ⟨_, _, (List.dropLast_concat_getLast (List.cons_ne_nil c breaks)).symm⟩
  rw [same, List.append_assoc] at single
  have apart := single.of_append.noBreakSpace
  have isLast := all last (by rw [same]; simp)
  simp [Written.hasPair, isLast] at apart

/-- Breaks and the indentation behind them are a gap. -/
theorem IsSingle.isGap {c : Char} {breaks rest : List Char}
    (single : IsSingle (c :: breaks ++ rest)) (all : ∀ d ∈ c :: breaks, isBreak d = true)
    : IsGap (c :: breaks ++ List.replicate 4 ' ') (c :: breaks) := by
  refine .breaks 3 (fun d member => ⟨all d member, ?_⟩) ?_
  · exact single.printable d (List.mem_append_left rest member)
  · rintro rfl
    exact single.noFeed List.mem_cons_self

/-- What is written between single quotes is words and gaps, by induction on the length. -/
theorem IsSingle.quotes {text : List Char} (single : IsSingle text)
    : Quotes true doubled (Written.quote false text) text := by
  induction length : text.length using Nat.strongRecOn generalizing text with
  | ind n ih =>
  obtain ⟨word, rest, rfl, solid, stops⟩ := exists_run (fun c => isSolid (some c)) text
  have spelled : ∀ c ∈ word, IsSpelled true (doubled c) c := fun c member =>
    isSpelled_doubled (solid c member)
  rw [Written.quote_append fun c member => (isSolid_some_iff.mp (solid c member)).2]
  have behind : IsSingle rest := single.of_append
  cases rest with
  | nil => simpa [Written.quote] using Quotes.word spelled
  | cons c rest =>
      by_cases isBreak : Yaml.isBreak c = true
      · obtain ⟨breaks, tail, rfl, all, other⟩ := exists_run Yaml.isBreak rest
        have every : ∀ d ∈ c :: breaks, Yaml.isBreak d = true := by simpa [isBreak] using all
        have starts := behind.solid_of_breaks every other
        have shorter : tail.length < n := by
          simp at length
          omega
        have later : IsSingle (c :: breaks ++ tail) := behind
        rw [← List.cons_append, Written.quote_next every other]
        exact .gap spelled (later.isGap every) (endsGap_quote starts)
          (ih tail.length shorter later.of_append rfl)
      · have isBlank : Yaml.isBlank c = true := by
          have gap := stops c rfl
          simp only [isSolid, Bool.and_eq_false_iff, Bool.not_eq_false'] at gap
          exact gap.resolve_right isBreak
        obtain rfl := eq_space_of_isBlank isBlank (behind.printable c List.mem_cons_self)
        obtain ⟨count, tail, same, other⟩ := exists_spaces (' ' :: rest)
        cases count with
        | zero =>
            rw [List.replicate_zero, List.nil_append] at same
            rw [← same] at other
            exact absurd rfl other
        | succ count =>
            rw [same] at behind length ⊢
            have shorter : tail.length < n := by
              simp at length
              omega
            rw [Written.quote_spaces]
            exact .gap spelled (.spaces count) (endsGap_quote (behind.solid_of_spaces other))
              (ih tail.length shorter behind.of_append rfl)

/-- A text that is written between single quotes is read back. -/
theorem readQuoted_single {text rest : List Char} (allows : Written.allowsSingle text = true)
    (noFeed : '\n' ∉ text) (closes : rest.head? ≠ some '\'') (mark : Mark)
    : ∃ next,
        readQuoted true ⟨Written.single text ++ rest, mark⟩ = .ok ⟨text, false, ⟨rest, next⟩⟩ := by
  have quotes := (isSingle_of_allowsSingle allows noFeed).quotes
  obtain ⟨next, read⟩ := quotes.readQuoted_eq (fun _ => closes) mark
  refine ⟨next, ?_⟩
  rw [Written.single, List.append_assoc]
  exact read

-----------------------------------------------------------------------------------------
-- Double quotes
-----------------------------------------------------------------------------------------

namespace Written

theorem length_hexDigits (count n : Nat) : (hexDigits count n).length = count := by
  induction count generalizing n with
  | zero => rfl
  | succ count ih => simp [hexDigits, ih]

theorem hexValue?_hexDigitUpper : ∀ n < 16, Text.hexValue? (Text.hexDigitUpper n) = some n := by
  decide

theorem exists_of_mem_hexDigits {count n : Nat} {c : Char} (member : c ∈ hexDigits count n)
    : ∃ digit < 16, c = Text.hexDigitUpper digit := by
  induction count generalizing n with
  | zero => cases member
  | succ count ih =>
      rcases List.mem_append.mp member with earlier | last
      · exact ih earlier
      · exact ⟨n % 16, Nat.mod_lt n (by decide), List.mem_singleton.mp last⟩

theorem isSome_hexValue?_of_mem {count n : Nat} {c : Char} (member : c ∈ hexDigits count n)
    : (Text.hexValue? c).isSome = true := by
  obtain ⟨digit, small, rfl⟩ := exists_of_mem_hexDigits member
  rw [hexValue?_hexDigitUpper digit small]
  rfl

/-- Digits stand for their number as far as there are enough of them. -/
theorem ofHex_hexDigits (count n : Nat)
    : Text.ofHex (hexDigits count n) = n % Nat.pow 16 count := by
  induction count generalizing n with
  | zero => exact (Nat.mod_one n).symm
  | succ count ih =>
      have power : Nat.pow 16 (count + 1) = 16 * Nat.pow 16 count := Nat.mul_comm _ _
      have last := hexValue?_hexDigitUpper (n % 16) (Nat.mod_lt n (by decide))
      have earlier := ih (n / 16)
      rw [Text.ofHex] at earlier ⊢
      rw [hexDigits, List.foldl_append, earlier, List.foldl_cons, List.foldl_nil, last,
        Option.getD_some, power, Nat.mod_mul]
      omega

end Written

/-- What is read as an escape spells its character. -/
theorem isSpelled_of_readEscape {c letter : Char} {others : List Char}
    (noBreak : isBreak letter = false)
    (escape
      : ∀ start rest mark,
          readEscape start ⟨'\\' :: letter :: (others ++ rest), mark⟩
          = .ok (c, ⟨rest, mark.advance (others.length + 2)⟩))
    : IsSpelled false ('\\' :: letter :: others) c := by
  refine ⟨⟨'\\', rfl, rfl⟩, fun start fuel run rest mark => ?_⟩
  have goesOn
      : (Cursor.ahead? ⟨'\\' :: letter :: (others ++ rest), mark⟩ 1).any isBreak = false := by
    simpa [Cursor.ahead?] using noBreak
  have solid : (isBlank '\\' || isBreak '\\') = false := rfl
  have notQuote : ('\\' == '"') = false := rfl
  simp only [List.cons_append, readQuotedRun, Cursor.head?_cons, solid, notQuote, goesOn,
    Bool.false_eq_true, if_false, beq_self_eq_true, if_true, escape]
  rfl

theorem ofNatAux_eq {c : Char} {n : Nat} (valid : n.isValidChar) (same : n = c.toNat)
    : Char.ofNatAux n valid = c := by
  subst same
  rfl

/-- A character is read from a numbered escape. -/
theorem isSpelled_numbered {c letter : Char} {width : Nat}
    (isWidth : escapeWidth? letter = some width) (noName : namedEscape? letter = none)
    (noBreak : isBreak letter = false) (fits : c.toNat < Nat.pow 16 width)
    : IsSpelled false ('\\' :: letter :: Written.hexDigits width c.toNat) c := by
  refine isSpelled_of_readEscape noBreak fun start rest mark => ?_
  have digits
      : (Written.hexDigits width c.toNat ++ rest).take width = Written.hexDigits width c.toNat :=
    List.take_left' (Written.length_hexDigits width c.toNat)
  have all : (Written.hexDigits width c.toNat).all (Text.hexValue? · |>.isSome) = true :=
    List.all_eq_true.mpr fun d member => Written.isSome_hexValue?_of_mem member
  have value : Text.ofHex ((Written.hexDigits width c.toNat ++ rest).take width) = c.toNat := by
    rw [digits, Written.ofHex_hexDigits, Nat.mod_eq_of_lt fits]
  have valid
      : (Text.ofHex ((Written.hexDigits width c.toNat ++ rest).take width)).isValidChar := by
    rw [value]
    exact c.valid
  have behind
      : Cursor.skip ⟨Written.hexDigits width c.toNat ++ rest, (mark.advance 1).advance 1⟩ width
        = ⟨rest, mark.advance (width + 2)⟩ := by
    have skipped :=
      Cursor.skip_append ((mark.advance 1).advance 1) (Written.hexDigits width c.toNat) rest
    rw [Written.length_hexDigits, Mark.advance_advance, Mark.advance_advance] at skipped
    rw [Mark.advance_advance, skipped, Nat.add_comm width 2]
  have isLetter
      : Cursor.ahead? ⟨'\\' :: letter :: (Written.hexDigits width c.toNat ++ rest), mark⟩ 1
        = some letter := rfl
  have atDigits
      : Cursor.skip ⟨'\\' :: letter :: (Written.hexDigits width c.toNat ++ rest), mark⟩ 2
        = ⟨Written.hexDigits width c.toNat ++ rest, (mark.advance 1).advance 1⟩ := rfl
  rw [readEscape, isLetter]
  dsimp only
  rw [noName, isWidth, atDigits]
  dsimp only
  rw [if_neg (by simp [digits, Written.length_hexDigits, all]), dif_pos valid,
    ofNatAux_eq valid value, behind, Written.length_hexDigits]

/-- The letter of a character is read as the character. -/
theorem namedEscape?_of_escapeLetter? {c letter : Char}
    (found : Written.escapeLetter? c = some letter)
    : namedEscape? letter = some c ∧ isBreak letter = false := by
  unfold Written.escapeLetter? at found
  split at found
  all_goals first | cases found; exact ⟨rfl, rfl⟩ | cases found

theorem isSpelled_named {c letter : Char} (found : Written.escapeLetter? c = some letter)
    : IsSpelled false ['\\', letter] c := by
  obtain ⟨isName, noBreak⟩ := namedEscape?_of_escapeLetter? found
  refine isSpelled_of_readEscape noBreak fun start rest mark => ?_
  simp only [List.nil_append, readEscape, Cursor.ahead?, List.getElem?_cons_succ,
    List.getElem?_cons_zero, isName]
  rfl

/-- Every character but the space is spelled between double quotes. -/
theorem isSpelled_escape {c : Char} (noSpace : c ≠ ' ') : IsSpelled false (Written.escape c) c := by
  unfold Written.escape
  split
  next letter found => exact isSpelled_named found
  next noLetter =>
    have other {d : Char} (hasLetter : (Written.escapeLetter? d).isSome = true) : c ≠ d := by
      rintro rfl
      rw [noLetter] at hasLetter
      cases hasLetter
    split
    next printable =>
      have notBlank : isBlank c = false := by
        rw [Bool.eq_false_iff]
        intro blank
        exact noSpace (eq_space_of_isBlank blank printable)
      have notBreak : isBreak c = false := by
        rw [Bool.eq_false_iff]
        intro breaks
        rcases cases_of_isBreak breaks printable with same | same | same
        · exact other rfl same
        · exact other rfl same
        · exact other rfl same
      have notQuote : (c == '"') = false := by simpa using other rfl
      have notBackslash : (c == '\\') = false := by simpa using other rfl
      refine
        ⟨⟨c, rfl, isSolid_some_iff.mpr ⟨notBlank, notBreak⟩⟩, fun start fuel run rest mark => ?_⟩
      simp only [List.singleton_append, readQuotedRun, Cursor.head?_cons, notBlank, notBreak,
        Bool.or_self, Bool.false_eq_true, if_false, notQuote, notBackslash]
      rfl
    next =>
      split
      next small => exact isSpelled_numbered rfl rfl rfl small
      next =>
        split
        next middle => exact isSpelled_numbered rfl rfl rfl middle
        next => exact isSpelled_numbered rfl rfl rfl (Nat.lt_trans (Utf8.toNat_lt c) (by decide))

/-- What is written between double quotes is words and spaces, by induction on the length. -/
theorem quotes_double (text : List Char)
    : Quotes false Written.escape (text.flatMap Written.escape) text := by
  induction length : text.length using Nat.strongRecOn generalizing text with
  | ind n ih =>
  obtain ⟨word, count, rest, rfl, noSpace, other, nothing⟩ := exists_word text
  have spelled : ∀ c ∈ word, IsSpelled false (Written.escape c) c := by
    intro c member
    refine isSpelled_escape ?_
    rintro rfl
    exact noSpace member
  cases count with
  | zero =>
      rw [nothing rfl]
      simpa using Quotes.word spelled
  | succ count =>
      have starts : EndsGap (rest.flatMap Written.escape) := by
        cases rest with
        | nil => exact .nil
        | cons c rest =>
            have noSpace : c ≠ ' ' := fun same => other (by rw [same]; rfl)
            obtain ⟨d, isHead, solid⟩ := (isSpelled_escape noSpace).solid
            obtain ⟨others, same⟩ := List.head?_eq_some_iff.mp isHead
            rw [List.flatMap_cons, same]
            exact .cons solid _
      have spaces
          : (List.replicate (count + 1) ' ').flatMap Written.escape
            = List.replicate (count + 1) ' ' := by
        have space : Written.escape ' ' = [' '] := rfl
        simp [List.flatMap_replicate, space]
      rw [List.flatMap_append, List.flatMap_append, spaces]
      refine .gap spelled (.spaces count) starts (ih rest.length ?_ rest rfl)
      simp at length
      omega

/-- Every text is read back from double quotes. -/
theorem readQuoted_double (text rest : List Char) (mark : Mark)
    : ∃ next,
        readQuoted false ⟨Written.double text ++ rest, mark⟩ = .ok ⟨text, false, ⟨rest, next⟩⟩ := by
  obtain ⟨next, read⟩ := (quotes_double text).readQuoted_eq nofun mark
  refine ⟨next, ?_⟩
  rw [Written.double, List.append_assoc]
  exact read

end SatClient.Yaml
