import SatClient.Proofs.Text.Utf8
import SatClient.Proofs.Yaml.Scalar.Gap
import SatClient.Yaml.Scalar.Written

/-! Plain scalars. A text that can stand plain is a line of words with spaces between them, and is
read word by word up to the line that follows it.
-/

namespace SatClient.Yaml

open Gap (EndsGap)

-----------------------------------------------------------------------------------------
-- Texts with spaces
-----------------------------------------------------------------------------------------

/-- The characters of a kind at the start of a text, by induction on it. -/
theorem exists_run (p : Char → Bool) (text : List Char)
    : ∃ run rest,
        text = run ++ rest ∧ (∀ c ∈ run, p c = true) ∧ ∀ c ∈ rest.head?, p c = false := by
  induction text with
  | nil => exact ⟨[], [], rfl, by simp, by simp⟩
  | cons c text ih =>
      cases kind : p c with
      | true =>
          obtain ⟨run, rest, rfl, all, stops⟩ := ih
          exact ⟨c :: run, rest, rfl, by simpa [kind] using all, stops⟩
      | false => exact ⟨[], c :: text, rfl, by simp, by simpa using kind⟩

theorem exists_spaces (text : List Char)
    : ∃ count rest, text = List.replicate count ' ' ++ rest ∧ rest.head? ≠ some ' ' := by
  obtain ⟨run, rest, rfl, all, stops⟩ := exists_run (· == ' ') text
  refine ⟨run.length, rest, ?_, fun isHead => absurd (stops ' ' isHead) (by decide)⟩
  rw [← List.eq_replicate_of_mem fun c member => by simpa using all c member]

/-- The first word of a text and the spaces behind it, by induction on the text. -/
theorem exists_word (text : List Char)
    : ∃ word count rest,
        text = word ++ (List.replicate count ' ' ++ rest)
        ∧ ' ' ∉ word
        ∧ rest.head? ≠ some ' '
        ∧ (count = 0 → rest = []) := by
  induction text with
  | nil => exact ⟨[], 0, [], rfl, List.not_mem_nil, by simp, fun _ => rfl⟩
  | cons c text ih =>
      by_cases same : c = ' '
      · obtain ⟨count, rest, spaces, other⟩ := exists_spaces (c :: text)
        refine ⟨[], count, rest, spaces, List.not_mem_nil, other, ?_⟩
        rintro rfl
        rw [List.replicate_zero, List.nil_append] at spaces
        rw [← spaces, same] at other
        exact absurd rfl other
      · obtain ⟨word, count, rest, rfl, noSpace, others⟩ := ih
        exact ⟨c :: word, count, rest, rfl, by simp [Ne.symm same, noSpace], others⟩

namespace Written

theorem hasPair_of_append {p q : Char → Bool} {front back : List Char}
    (none : hasPair p q (front ++ back) = false)
    : hasPair p q back = false := by
  induction front with
  | nil => exact none
  | cons c front ih =>
      apply ih
      rw [List.cons_append] at none
      cases rest : front ++ back with
      | nil => rfl
      | cons d others =>
          rw [rest, hasPair, Bool.or_eq_false_iff] at none
          exact none.2

theorem hasKeyColon_of_append {front back : List Char} (none : hasKeyColon (front ++ back) = false)
    : hasKeyColon back = false := by
  induction front with
  | nil => exact none
  | cons c front ih =>
      apply ih
      rw [List.cons_append, hasKeyColon, Bool.or_eq_false_iff] at none
      exact none.2

theorem isSolid_of_not_isGap {c : Char} (notGap : isGap c = false) : isSolid (some c) = true := by
  simp only [isGap, Bool.or_eq_false_iff] at notGap
  exact isSolid_some_iff.mpr notGap.1

end Written

-----------------------------------------------------------------------------------------
-- Words
-----------------------------------------------------------------------------------------

/-- Words on one line, none of which would be taken for something else where a word has been read
before.
-/
structure IsPlain (text : List Char) : Prop where
  printable : ∀ c ∈ text, isPrintable c = true
  noBreak : ∀ c ∈ text, isBreak c = false
  noColon : Written.hasKeyColon text = false
  noComment : Written.hasPair Written.isGap (· == '#') text = false
  last : text.getLast? ≠ some ' '

theorem IsPlain.of_append {front back : List Char} (plain : IsPlain (front ++ back))
    : IsPlain back where
  printable c member := plain.printable c (List.mem_append_right front member)
  noBreak c member := plain.noBreak c (List.mem_append_right front member)
  noColon := Written.hasKeyColon_of_append plain.noColon
  noComment := Written.hasPair_of_append plain.noComment
  last := by
    cases back with
    | nil => simp
    | cons c back =>
        have last := plain.last
        rwa [List.getLast?_append, List.getLast?_cons, Option.some_or,
          ← List.getLast?_cons] at last

theorem IsPlain.solid {text : List Char} (plain : IsPlain text) {c : Char} (member : c ∈ text)
    (other : c ≠ ' ')
    : isSolid (some c) = true := by
  rw [isSolid_some_iff]
  refine ⟨?_, plain.noBreak c member⟩
  rw [Bool.eq_false_iff]
  intro blank
  exact other (eq_space_of_isBlank blank (plain.printable c member))

/-- Gaps end a plain scalar. -/
theorem endsPlain_of_gap {c : Char} (gap : isSolid (some c) = false) (next : Option Char)
    : endsPlain false c next = true := by
  simp only [isSolid, Bool.and_eq_false_iff, Bool.not_eq_false'] at gap
  rcases gap with blank | breaks
  · simp [endsPlain, blank]
  · simp [endsPlain, breaks]

/-- Other characters do not, since the text has no colon with a gap behind it. -/
theorem IsPlain.endsPlain_eq {c : Char} {more : List Char} (plain : IsPlain (c :: more))
    (solid : isSolid (some c) = true) (tail : List Char)
    : endsPlain false c (more ++ tail).head? = false := by
  obtain ⟨notBlank, notBreak⟩ := isSolid_some_iff.mp solid
  have noColon := plain.noColon
  rw [Written.hasKeyColon, Bool.or_eq_false_iff, Bool.and_eq_false_iff] at noColon
  simp only [endsPlain, notBlank, notBreak, Bool.false_and, Bool.or_false, Bool.false_or]
  rcases noColon.1 with notColon | inWord
  · rw [notColon, Bool.false_and]
  · cases more with
    | nil => cases inWord
    | cons d more =>
        rw [List.cons_append, List.head?_cons, Written.isSolid_of_not_isGap inWord]
        simp

/-- A word is read up to the blank or the break behind it, by induction on its characters. -/
theorem plainRun_word {word rest : List Char} (tail : List Char) (plain : IsPlain (word ++ rest))
    (noSpace : ' ' ∉ word) (ends : ∀ c ∈ (rest ++ tail).head?, isSolid (some c) = false)
    : plainRun false (word ++ (rest ++ tail)) = (word, false) := by
  induction word with
  | nil =>
      rw [List.nil_append]
      cases here : rest ++ tail with
      | nil => rfl
      | cons c others =>
          rw [here] at ends
          simp [plainRun, isMisplacedColon, endsPlain_of_gap (ends c rfl)]
  | cons c word ih =>
      rw [List.mem_cons, not_or] at noSpace
      rw [List.cons_append] at plain
      have solid := plain.solid List.mem_cons_self (Ne.symm noSpace.1)
      have goesOn := plain.endsPlain_eq solid tail
      rw [List.append_assoc] at goesOn
      have here : IsPlain ([c] ++ (word ++ rest)) := plain
      simp only [List.cons_append, plainRun, ih here.of_append noSpace.2, isMisplacedColon,
        Bool.false_and, Bool.false_eq_true, if_false, goesOn]

theorem isPlain_of_allowsPlain {text : List Char} (allows : Written.allowsPlain text = true)
    : IsPlain text ∧ text.head? ≠ some ' ' ∧ text.head? ≠ some '#' := by
  simp only [Written.allowsPlain, Written.allowsSingle, Written.needsEscapes, Written.hasIndicator,
    Bool.and_eq_true, Bool.not_eq_true', Bool.or_eq_false_iff, Bool.not_eq_false', bne_iff_ne,
    List.all_eq_true, List.any_eq_false] at allows
  obtain ⟨⟨⟨⟨⟨⟨printable, -⟩, -⟩, noBreak⟩, noSpace⟩, last⟩, ⟨noIndicator, noColon⟩, noComment⟩ :=
    allows
  refine ⟨⟨printable, fun c member => by simpa using noBreak c member, noColon, noComment, last⟩,
    noSpace, ?_⟩
  intro isHead
  obtain ⟨others, rfl⟩ := List.head?_eq_some_iff.mp isHead
  cases noIndicator

-----------------------------------------------------------------------------------------
-- Lines
-----------------------------------------------------------------------------------------

section Lines

variable {least fuel column : Nat} {start mark : Mark} {rest : List Char}

/-- One word is read, and then the gap behind it. -/
theorem readPlainFrom_word {word tail : List Char}
    (run : plainRun false (word ++ tail) = (word, false)) (some : word ≠ [])
    (first : word.head? ≠ Option.some '#') (inLine : mark.column ≠ 0)
    (stops : ∃ c ∈ tail.head?, isSolid (Option.some c) = false) (before : List Char) (gap : Gap)
    : readPlainFrom false least start (fuel + 1) before gap ⟨word ++ tail, mark⟩
      = (do
          let (found, next) ←
            Gap.read least start tail.length .empty ⟨tail, mark.advance word.length⟩
          if next.mark.column < least then
            .ok ⟨before ++ gap.text ++ word, found.isBroken, next⟩
          else readPlainFrom false least start fuel (before ++ gap.text ++ word) found next) := by
  obtain ⟨c, others, rfl⟩ := List.exists_cons_of_ne_nil some
  obtain ⟨d, isHead, gapped⟩ := stops
  obtain ⟨more, rfl⟩ := List.head?_eq_some_iff.mp isHead
  have noComment : (Option.some c == Option.some '#') = false := by simpa using first
  have atGap
      : (Cursor.atBlank ⟨d :: more, mark.advance (c :: others).length⟩
          || Cursor.atBreak ⟨d :: more, mark.advance (c :: others).length⟩) = true := by
    simp only [isSolid, Bool.and_eq_false_iff, Bool.not_eq_false'] at gapped
    simpa [Cursor.atBlank, Cursor.atBreak] using gapped
  rw [readPlainFrom, Cursor.atDocumentIndicator_of_column_ne (by exact inLine), run]
  dsimp only
  rw [Cursor.skip_append, atGap]
  simp [noComment]

/-- What stands behind a word and spaces are words again. -/
theorem IsPlain.next {word more : List Char} {count : Nat}
    (plain : IsPlain (word ++ (List.replicate (count + 1) ' ' ++ more)))
    : IsPlain more ∧ more ≠ [] ∧ more.head? ≠ some '#' := by
  rw [List.replicate_succ', List.append_assoc, ← List.append_assoc] at plain
  have spaced : IsPlain ([' '] ++ more) := plain.of_append
  refine ⟨spaced.of_append, ?_, ?_⟩
  · rintro rfl
    exact spaced.last rfl
  · intro isHead
    obtain ⟨others, rfl⟩ := List.head?_eq_some_iff.mp isHead
    cases spaced.noComment

/-- The last word of a text is read up to the line that follows. -/
theorem readPlainFrom_lastWord {word : List Char} (plain : IsPlain word) (noSpace : ' ' ∉ word)
    (some : word ≠ []) (first : word.head? ≠ Option.some '#') (ends : EndsGap rest)
    (outside : column < least) (inside : least ≤ mark.column) (before : List Char) (gap : Gap)
    : ∃ next,
        readPlainFrom false least start (fuel + 1) before gap
          ⟨word ++ '\n' :: (List.replicate column ' ' ++ rest), mark⟩
        = .ok ⟨before ++ gap.text ++ word, true, ⟨rest, next⟩⟩
        ∧ next.column = column := by
  have whole : IsPlain (word ++ []) := by rwa [List.append_nil]
  have run : plainRun false (word ++ '\n' :: (List.replicate column ' ' ++ rest))
      = (word, false) :=
    plainRun_word _ whole noSpace (by rintro c ⟨⟩; rfl)
  obtain ⟨next, read, isColumn⟩ :=
    Gap.read_feed least start (mark.advance word.length) ends
      (Nat.le_add_right (1 + column) rest.length)
  refine ⟨next, ?_, isColumn⟩
  have length
      : ('\n' :: (List.replicate column ' ' ++ rest)).length = 1 + column + rest.length := by
    simp
    omega
  rw [readPlainFrom_word run some first (by omega) ⟨'\n', rfl, rfl⟩, length, read]
  simp [bind, Except.bind, isColumn, outside, Gap.isBroken]

/-- Another word is read up to the next one, which is on the same line. -/
theorem readPlainFrom_otherWord {word more : List Char} {count : Nat} (fuel : Nat) (start : Mark)
    (tail : List Char)
    (plain : IsPlain (word ++ (List.replicate (count + 1) ' ' ++ more))) (noSpace : ' ' ∉ word)
    (some : word ≠ []) (first : word.head? ≠ Option.some '#')
    (other : more.head? ≠ Option.some ' ') (inLine : 0 < mark.column) (inside : least ≤ mark.column)
    (before : List Char) (gap : Gap)
    : ∃ next : Mark,
        mark.column ≤ next.column
        ∧ readPlainFrom false least start (fuel + 1) before gap
            ⟨word ++ (List.replicate (count + 1) ' ' ++ more ++ tail), mark⟩
          = readPlainFrom false least start fuel (before ++ gap.text ++ word)
              ⟨List.replicate (count + 1) ' ', none, []⟩ ⟨more ++ tail, next⟩ := by
  have run := plainRun_word tail plain noSpace (by rintro c ⟨⟩; rfl)
  obtain ⟨later, someMore, -⟩ := plain.next
  have ends : EndsGap (more ++ tail) := by
    obtain ⟨c, others, rfl⟩ := List.exists_cons_of_ne_nil someMore
    exact .cons (later.solid List.mem_cons_self fun same => other (by rw [same]; rfl)) _
  refine ⟨(mark.advance word.length).advance (count + 1), by simp; omega, ?_⟩
  rw [readPlainFrom_word run some first (by omega) ⟨' ', rfl, rfl⟩, List.append_assoc,
    Gap.read_spaces ends (by simp)]
  have within : ¬ mark.column + word.length + (count + 1) < least := by omega
  simp [bind, Except.bind, Gap.pad, Gap.isBroken, Gap.empty, within]

/-- Words are read to the end of their line and up to the line that follows, which starts before
the column of the block. The induction is on the fuel, of which every word takes some.
-/
theorem IsPlain.readPlainFrom_eq {text : List Char} (plain : IsPlain text) (some : text ≠ [])
    (first : text.head? ≠ Option.some ' ' ∧ text.head? ≠ Option.some '#') (ends : EndsGap rest)
    (outside : column < least) (inside : least ≤ mark.column) (enough : text.length ≤ fuel)
    (before : List Char) (gap : Gap)
    : ∃ next,
        readPlainFrom false least start fuel before gap
          ⟨text ++ '\n' :: (List.replicate column ' ' ++ rest), mark⟩
        = .ok ⟨before ++ gap.text ++ text, true, ⟨rest, next⟩⟩
        ∧ next.column = column := by
  induction fuel generalizing text before gap mark with
  | zero => exact absurd (List.eq_nil_of_length_eq_zero (Nat.le_zero.mp enough)) some
  | succ fuel ih =>
      obtain ⟨word, count, more, rfl, noSpace, other, nothing⟩ := exists_word text
      have someWord : word ≠ [] := by
        rintro rfl
        cases count with
        | zero => exact some (by simp [nothing rfl])
        | succ count => exact first.1 rfl
      have noComment : word.head? ≠ Option.some '#' := by
        obtain ⟨c, word, rfl⟩ := List.exists_cons_of_ne_nil someWord
        exact first.2
      cases count with
      | zero =>
          obtain rfl := nothing rfl
          simp only [List.replicate_zero, List.append_nil] at plain ⊢
          exact readPlainFrom_lastWord plain noSpace someWord noComment ends outside inside before
            gap
      | succ count =>
          obtain ⟨later, someMore, noCommentMore⟩ := plain.next
          obtain ⟨middle, further, word_eq⟩ :=
            readPlainFrom_otherWord fuel start ('\n' :: (List.replicate column ' ' ++ rest)) plain
              noSpace someWord noComment other (by omega) inside before gap
          obtain ⟨next, more_eq, isColumn⟩ :=
            ih later someMore ⟨other, noCommentMore⟩ (Nat.le_trans inside further)
              (by simp at enough; omega) (before ++ gap.text ++ word)
              ⟨List.replicate (count + 1) ' ', none, []⟩
          refine ⟨next, ?_, isColumn⟩
          rw [List.append_assoc, word_eq, more_eq]
          simp [Gap.text]

/-- A text that is written plain is read back up to the line that follows. -/
theorem readPlain_of_allowsPlain {text : List Char} (allows : Written.allowsPlain text = true)
    (some : text ≠ []) (ends : EndsGap rest) (outside : column < least)
    (inside : least ≤ mark.column)
    : ∃ next,
        readPlain false least ⟨text ++ '\n' :: (List.replicate column ' ' ++ rest), mark⟩
        = .ok ⟨text, true, ⟨rest, next⟩⟩
        ∧ next.column = column := by
  obtain ⟨plain, first⟩ := isPlain_of_allowsPlain allows
  exact plain.readPlainFrom_eq some first ends outside inside (by simp) [] .empty

end Lines

-----------------------------------------------------------------------------------------
-- Names
-----------------------------------------------------------------------------------------

/-- Characters of names of fields. -/
def isNameChar (c : Char) : Bool := c.isAlpha || c == '_'

/-- A word that names a field. -/
structure IsName (name : List Char) : Prop where
  some : name ≠ []
  all : ∀ c ∈ name, isNameChar c = true

instance (name : List Char) : Decidable (IsName name) :=
  decidable_of_iff (name ≠ [] ∧ name.all isNameChar = true)
    ⟨fun named => ⟨named.1, List.all_eq_true.mp named.2⟩,
      fun named => ⟨named.some, List.all_eq_true.mpr named.all⟩⟩

theorem ne_of_isNameChar {c d : Char} (named : isNameChar c = true) (other : isNameChar d = false)
    : c ≠ d := by
  rintro rfl
  rw [named] at other
  cases other

theorem isSolid_of_isNameChar {c : Char} (named : isNameChar c = true)
    : isSolid (some c) = true := by
  simp only [isSolid_some_iff, isBlank, isBreak, Bool.or_eq_false_iff, beq_eq_false_iff_ne]
  refine ⟨⟨?_, ?_⟩, ⟨⟨⟨?_, ?_⟩, ?_⟩, ?_⟩, ?_⟩ <;> exact ne_of_isNameChar named rfl

theorem isAllowed_of_isNameChar {c : Char} (named : isNameChar c = true) : isAllowed c = true := by
  simp only [isNameChar, Bool.or_eq_true, beq_iff_eq] at named
  obtain letter | rfl := named
  · have bounds := Utf8.toNat_of_isAlpha letter
    simp only [isAllowed, Bool.or_eq_true, Bool.and_eq_true, beq_iff_eq, decide_eq_true_eq]
    omega
  · rfl

theorem plainRun_name {name tail : List Char} (all : ∀ c ∈ name, isNameChar c = true)
    (gap : isSolid tail.head? = false)
    : plainRun false (name ++ ':' :: tail) = (name, false) := by
  induction name with
  | nil => simp [plainRun, isMisplacedColon, endsPlain, gap]
  | cons c name ih =>
      have named := all c List.mem_cons_self
      obtain ⟨notBlank, notBreak⟩ := isSolid_some_iff.mp (isSolid_of_isNameChar named)
      have notColon : (c == ':') = false := by simpa using ne_of_isNameChar named rfl
      simp [plainRun, ih fun d member => all d (List.mem_cons_of_mem c member), isMisplacedColon,
        endsPlain, notBlank, notBreak, notColon]

/-- No name starts or ends a document. -/
theorem IsName.atDocumentIndicator_eq {name : List Char} (named : IsName name) (tail : List Char)
    (mark : Mark)
    : Cursor.atDocumentIndicator ⟨name ++ tail, mark⟩ = false := by
  obtain ⟨c, others, rfl⟩ := List.exists_cons_of_ne_nil named.some
  have isFirst := named.all c List.mem_cons_self
  have notHyphen : (c == '-') = false := by simpa using ne_of_isNameChar isFirst rfl
  have notPoint : (c == '.') = false := by simpa using ne_of_isNameChar isFirst rfl
  simp [Cursor.atDocumentIndicator, notHyphen, notPoint]

/-- A name is read up to the colon behind it. -/
theorem IsName.readPlain_eq {name tail : List Char} (named : IsName name) (least : Nat)
    (mark : Mark) (gap : isSolid tail.head? = false)
    : readPlain false least ⟨name ++ ':' :: tail, mark⟩
      = .ok ⟨name, false, ⟨':' :: tail, mark.advance name.length⟩⟩ := by
  have run := plainRun_name named.all gap
  have noIndicator := named.atDocumentIndicator_eq (':' :: tail) mark
  obtain ⟨c, others, rfl⟩ := List.exists_cons_of_ne_nil named.some
  have notHash : (c == '#') = false := by
    simpa using ne_of_isNameChar (named.all c List.mem_cons_self) rfl
  have atGap
      : (Cursor.atBlank ⟨':' :: tail, mark.advance (c :: others).length⟩
          || Cursor.atBreak ⟨':' :: tail, mark.advance (c :: others).length⟩) = false := by
    rfl
  change readPlainFrom false least mark (_ + 1) [] .empty _ = _
  rw [readPlainFrom, noIndicator, run]
  dsimp only
  rw [Cursor.skip_append, atGap]
  simp [notHash, Gap.text, Gap.empty]

end SatClient.Yaml
