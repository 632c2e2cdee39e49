import SatClient.Proofs.Yaml.Scalar.Plain

/-! Scalars that are written line by line. A text is breaks and lines by turns; every line is read
behind its indentation, and the breaks at the end are kept or dropped as the header says.
-/

namespace SatClient.Yaml

open Gap (EndsGap)
open Written (indentation)

-----------------------------------------------------------------------------------------
-- Written lines
-----------------------------------------------------------------------------------------

namespace Written

theorem indent_nil (isLineStart : Bool) : indent isLineStart [] = [] := by
  rw [indent]

theorem indent_breaks {breaks : List Char} (all : ∀ c ∈ breaks, isBreak c = true)
    (text : List Char)
    : indent true (breaks ++ text) = breaks ++ indent true text := by
  induction breaks with
  | nil => rfl
  | cons c breaks ih =>
      rw [List.cons_append, indent, ih fun d member => all d (List.mem_cons_of_mem c member)]
      simp [all c List.mem_cons_self]

theorem indent_line {line : List Char} (inLine : ∀ c ∈ line, isBreak c = false)
    (text : List Char)
    : indent false (line ++ text) = line ++ indent false text := by
  induction line with
  | nil => rfl
  | cons c line ih =>
      rw [List.cons_append, indent, ih fun d member => inLine d (List.mem_cons_of_mem c member)]
      simp [inLine c List.mem_cons_self]

theorem indent_of_line {line : List Char} (inLine : ∀ c ∈ line, isBreak c = false)
    : indent false line = line := by
  have whole := indent_line inLine []
  rwa [indent, List.append_nil] at whole

/-- A line, its break, and the empty lines behind it. -/
theorem indent_lines {line breaks : List Char} {c : Char} (inLine : ∀ d ∈ line, isBreak d = false)
    (all : ∀ d ∈ c :: breaks, isBreak d = true) (text : List Char)
    : indent false (line ++ c :: (breaks ++ text)) = line ++ c :: (breaks ++ indent true text) := by
  rw [indent_line inLine, ← indent_breaks fun d member => all d (List.mem_cons_of_mem c member)]
  simp [indent, all c List.mem_cons_self]

theorem indent_true {text : List Char} (some : text ≠ [])
    (starts : ∀ c ∈ text.head?, isBreak c = false)
    : indent true text = List.replicate 4 ' ' ++ indent false text := by
  obtain ⟨c, others, rfl⟩ := List.exists_cons_of_ne_nil some
  have notBreak := starts c rfl
  simp [indent, notBreak, indentation]

/-- What stands behind the last line of a text. -/
def ending (text : List Char) : List Char :=
  if (text.getLast?.map isBreak).getD false then [] else ['\n']

theorem ending_append (front : List Char) {text : List Char} (some : text ≠ [])
    : ending (front ++ text) = ending text := by
  obtain ⟨c, others, rfl⟩ := List.exists_cons_of_ne_nil some
  simp only [ending, List.getLast?_append, List.getLast?_cons, Option.some_or]

theorem ending_line {line : List Char} (inLine : ∀ c ∈ line, isBreak c = false)
    : ending line = ['\n'] := by
  cases last : line.getLast? with
  | none => simp [ending, last]
  | some c => simp [ending, last, inLine c (List.mem_of_getLast? last)]

theorem ending_breaks (front : List Char) {c : Char} {breaks : List Char}
    (all : ∀ d ∈ c :: breaks, isBreak d = true)
    : ending (front ++ c :: breaks) = [] := by
  rw [ending_append front (List.cons_ne_nil c breaks)]
  cases last : (c :: breaks).getLast? with
  | none => simp at last
  | some d => simp [ending, last, all d (List.mem_of_getLast? last)]

/-- What becomes of the breaks at the end of a text that is written line by line. -/
def chomping (text : List Char) : Chomping :=
  match text.reverse with
  | [] => .strip
  | last :: rest =>
      if !isBreak last then .strip
      else
        match rest with
        | [] => .keep
        | before :: _ => if isBreak before then .keep else .clip

/-- What the header says about the breaks at the end. -/
theorem endHint_eq (text : List Char)
    : endHint text
      = match chomping text with
        | .strip => ['-']
        | .clip => []
        | .keep => ['+'] := by
  unfold endHint chomping
  cases text.reverse with
  | nil => rfl
  | cons last rest =>
      cases found : isBreak last with
      | false => simp [found]
      | true =>
          cases rest with
          | nil => simp [found]
          | cons before rest => cases kept : isBreak before <;> simp [found, kept]

/-- Only the last line and the breaks behind it matter. -/
theorem chomping_append (front : List Char) {text : List Char} (some : text ≠ [])
    (starts : ∀ c ∈ text.head?, isBreak c = false)
    : chomping (front ++ text) = chomping text := by
  obtain ⟨c, others, rfl⟩ := List.exists_cons_of_ne_nil some
  have notBreak := starts c rfl
  simp only [chomping, List.reverse_append, List.reverse_cons]
  cases others.reverse with
  | nil => simp [notBreak]
  | cons last rest => cases rest <;> rfl

theorem chomping_line {line : List Char} (inLine : ∀ c ∈ line, isBreak c = false)
    : chomping line = .strip := by
  unfold chomping
  cases reversed : line.reverse with
  | nil => rfl
  | cons last rest =>
      have member : last ∈ line := by
        rw [← List.mem_reverse, reversed]
        exact List.mem_cons_self
      simp [inLine last member]

theorem chomping_concat (front : List Char) {before last : Char} (breaks : isBreak last = true)
    : chomping (front ++ [before, last]) = if isBreak before then .keep else .clip := by
  simp [chomping, breaks]

theorem exists_concat {text : List Char} (some : text ≠ [])
    : ∃ front last, text = front ++ [last] :=
  ⟨text.dropLast, text.getLast some, (List.dropLast_concat_getLast some).symm⟩

theorem chomping_breaks {line : List Char} {c : Char} {breaks : List Char} (some : line ≠ [])
    (inLine : ∀ d ∈ line, isBreak d = false) (all : ∀ d ∈ c :: breaks, isBreak d = true)
    : chomping (line ++ c :: breaks) = if breaks = [] then .clip else .keep := by
  by_cases nothing : breaks = []
  · obtain rfl := nothing
    obtain ⟨front, before, rfl⟩ := exists_concat some
    rw [List.append_assoc]
    exact (chomping_concat front (all c List.mem_cons_self)).trans (by simp [inLine before])
  · obtain ⟨others, last, rfl⟩ := exists_concat nothing
    obtain ⟨more, before, found⟩ := exists_concat (List.cons_ne_nil c others)
    have isBefore : isBreak before = true :=
      all before (by rw [← List.cons_append, found]; simp)
    have isLast : isBreak last = true := all last (by simp)
    rw [← List.cons_append, found, List.append_assoc, ← List.append_assoc]
    exact (chomping_concat (line ++ more) isLast).trans (by simp [isBefore])

theorem chomping_of_breaks {breaks : List Char} {c : Char}
    (all : ∀ d ∈ c :: breaks, isBreak d = true)
    : chomping (c :: breaks) = .keep := by
  have reversed : ∀ d ∈ (c :: breaks).reverse, isBreak d = true :=
    fun d member => all d (List.mem_reverse.mp member)
  unfold chomping
  cases found : (c :: breaks).reverse with
  | nil => simp at found
  | cons last rest =>
      rw [found, List.forall_mem_cons] at reversed
      cases rest with
      | nil => simp [reversed.1]
      | cons before rest => simp [reversed.1, reversed.2 before List.mem_cons_self]

/-- Whether the first line of a text does not show how the lines are indented. -/
def hidesIndent (text : List Char) : Bool := text.head?.any fun c => c == ' ' || isBreak c

theorem indentHint_eq (text : List Char)
    : indentHint text = if hidesIndent text then ['2'] else [] := by
  cases text <;> rfl

/-- A text that shows its indentation starts with something else than a gap. -/
theorem isSolid_of_hidesIndent {text : List Char} (shows : hidesIndent text = false)
    (printable : ∀ c ∈ text, isPrintable c = true)
    : ∀ c ∈ text.head?, isSolid (some c) = true := by
  intro c isHead
  obtain ⟨others, rfl⟩ := List.head?_eq_some_iff.mp isHead
  simp only [hidesIndent, List.head?_cons, Option.any_some, Bool.or_eq_false_iff,
    beq_eq_false_iff_ne] at shows
  refine isSolid_some_iff.mpr ⟨?_, shows.2⟩
  rw [Bool.eq_false_iff]
  exact fun blank => shows.1 (eq_space_of_isBlank blank (printable c List.mem_cons_self))

theorem length_le_indent (isLineStart : Bool) (text : List Char)
    : text.length ≤ (indent isLineStart text).length := by
  induction text generalizing isLineStart with
  | nil => exact Nat.zero_le _
  | cons c text ih =>
      have breaks := ih true
      have inLine := ih false
      rw [indent]
      split
      · simpa using breaks
      · simp
        omega

theorem of_allowsLiteral {text : List Char} (allows : allowsLiteral text = true)
    : (∀ c ∈ text, isPrintable c = true) ∧ text ≠ [] := by
  simp only [allowsLiteral, needsEscapes, Bool.and_eq_true, Bool.not_eq_true',
    Bool.or_eq_false_iff, Bool.not_eq_false', List.all_eq_true] at allows
  exact ⟨allows.1.1.1, by simpa using allows.1.2⟩

end Written

-----------------------------------------------------------------------------------------
-- Empty lines
-----------------------------------------------------------------------------------------

section Reading

variable {indent fuel count column : Nat} {start mark : Mark} {rest : List Char}

/-- The spaces in front of a line, as far as they indent it. -/
theorem readEmptyLines_nil (within : count ≤ indent)
    (starts : ∀ c ∈ rest.head?, isBreak c = false) (short : count < indent → EndsGap rest)
    (atLine : mark.column = 0) (found : List Char) (widest : Nat)
    : readEmptyLines (some indent) start (fuel + 1) found widest
        ⟨List.replicate count ' ' ++ rest, mark⟩
      = .ok (found, max widest count, ⟨rest, mark.advance count⟩) := by
  have taken
      : min ((List.replicate count ' ' ++ rest).takeWhile (· == ' ')).length
          (indent - mark.column) = count := by
    rw [List.takeWhile_append_of_pos (by simp), List.length_append, List.length_replicate, atLine]
    cases Nat.lt_or_eq_of_le within with
    | inl less => simp [(short less).takeWhile_space, within]
    | inr same => simp [same]
  have noTab : ¬ (count < indent ∧ rest.head? = some '\t') :=
    fun tab => (short tab.1).head?_ne rfl tab.2
  simp only [readEmptyLines, taken, Cursor.skip_spaces, Cursor.atBreak_eq_false _ starts]
  simp [Cursor.head?, atLine, noTab]

/-- Breaks are read up to a line that is indented as it should be, or less and then starts with
something else than a blank. The induction is on the breaks.
-/
theorem readEmptyLines_eq (start : Mark) {breaks : List Char}
    (all : ∀ c ∈ breaks, isBreak c = true ∧ isPrintable c = true) (within : count ≤ indent)
    (starts : ∀ c ∈ rest.head?, isBreak c = false) (short : count < indent → EndsGap rest)
    (atLine : mark.column = 0)
    (enough : (breaks ++ (List.replicate count ' ' ++ rest)).length ≤ fuel) (found : List Char)
    (widest : Nat)
    : ∃ wide next,
        readEmptyLines (some indent) start fuel found widest
          ⟨breaks ++ (List.replicate count ' ' ++ rest), mark⟩
        = .ok (found ++ breaks, wide, ⟨rest, next⟩)
        ∧ next.column = count := by
  induction breaks generalizing fuel mark found widest with
  | nil =>
      rw [List.nil_append, List.append_nil]
      cases fuel with
      | zero =>
          simp only [List.nil_append, List.length_append, List.length_replicate, Nat.le_zero,
            Nat.add_eq_zero_iff, List.length_eq_zero_iff] at enough
          obtain ⟨rfl, rfl⟩ := enough
          exact ⟨widest, mark, rfl, atLine⟩
      | succ fuel =>
          exact ⟨_, _, readEmptyLines_nil within starts short atLine found widest, by simp [atLine]⟩
  | cons c breaks ih =>
      rw [List.cons_append, List.length_cons] at enough
      obtain ⟨fuel, rfl⟩ : ∃ less, fuel = less + 1 := ⟨fuel - 1, by omega⟩
      obtain ⟨isBreak, printable⟩ := all c List.mem_cons_self
      have notSpace : c ≠ ' ' := by
        rintro rfl
        cases isBreak
      have notTab : c ≠ '\t' := by
        rintro rfl
        cases isBreak
      have atNext : (mark.newline 1).column = 0 := rfl
      have step
          : readEmptyLines (some indent) start (fuel + 1) found widest
              ⟨c :: breaks ++ (List.replicate count ' ' ++ rest), mark⟩
            = readEmptyLines (some indent) start fuel (found ++ [c]) (max widest mark.column)
              ⟨breaks ++ (List.replicate count ' ' ++ rest), mark.newline 1⟩ := by
        simp [readEmptyLines, notSpace, notTab, Cursor.atBreak, isBreak,
          Cursor.readBreak_cons mark isBreak printable]
      rw [step, List.append_cons found c breaks]
      exact ih (fun d member => all d (List.mem_cons_of_mem c member)) atNext
        (Nat.le_of_succ_le_succ enough) (found ++ [c]) (max widest mark.column)

/-- The indentation of a first line that shows it. -/
theorem readEmptyLines_none (ends : EndsGap rest) (atLine : mark.column = 0)
    : readEmptyLines none start (fuel + 1) [] 0 ⟨List.replicate count ' ' ++ rest, mark⟩
      = .ok ([], count, ⟨rest, mark.advance count⟩) := by
  have taken : ((List.replicate count ' ' ++ rest).takeWhile (· == ' ')).length = count := by
    rw [List.takeWhile_append_of_pos (by simp), ends.takeWhile_space]
    simp
  have noTab := ends.head?_ne (c := '\t') rfl
  simp only [readEmptyLines, taken, Cursor.skip_spaces,
    Cursor.atBreak_eq_false _ ends.isBreak_eq_false]
  simp [Cursor.head?, atLine, noTab]

-----------------------------------------------------------------------------------------
-- Lines
-----------------------------------------------------------------------------------------

/-- A text that starts with a line, and goes on with breaks and lines by turns. -/
inductive IsLines : List Char → Prop where
  | line {line : List Char} (some : line ≠ []) (inLine : ∀ d ∈ line, isBreak d = false)
      : IsLines line
  | breaks {line : List Char} {c : Char} {breaks : List Char} (some : line ≠ [])
      (inLine : ∀ d ∈ line, isBreak d = false)
      (all : ∀ d ∈ c :: breaks, isBreak d = true ∧ isPrintable d = true)
      : IsLines (line ++ c :: breaks)
  | next {line : List Char} {c : Char} {breaks more : List Char} (some : line ≠ [])
      (inLine : ∀ d ∈ line, isBreak d = false)
      (all : ∀ d ∈ c :: breaks, isBreak d = true ∧ isPrintable d = true) (others : IsLines more)
      : IsLines (line ++ c :: (breaks ++ more))

theorem IsLines.exists_cons {text : List Char} (isLines : IsLines text)
    : ∃ c others, text = c :: others ∧ isBreak c = false := by
  have first {line : List Char} (some : line ≠ []) (inLine : ∀ d ∈ line, isBreak d = false)
      (back : List Char)
      : ∃ c others, line ++ back = c :: others ∧ isBreak c = false := by
    obtain ⟨c, others, rfl⟩ := List.exists_cons_of_ne_nil some
    exact ⟨c, others ++ back, rfl, inLine c List.mem_cons_self⟩
  cases isLines with
  | line some inLine => simpa using first some inLine []
  | breaks some inLine => exact first some inLine _
  | next some inLine => exact first some inLine _

theorem IsLines.exists_fuel {text : List Char} (isLines : IsLines text) {fuel : Nat}
    (enough : text.length ≤ fuel)
    : ∃ less, fuel = less + 1 := by
  obtain ⟨c, others, rfl, -⟩ := isLines.exists_cons
  exact ⟨fuel - 1, by simp at enough; omega⟩

/-- The lines of a text, by induction on its length. -/
theorem isLines_of_printable {text : List Char} (some : text ≠ [])
    (starts : ∀ c ∈ text.head?, isBreak c = false) (printable : ∀ c ∈ text, isPrintable c = true)
    : IsLines text := by
  induction bound : text.length using Nat.strongRecOn generalizing text with
  | ind length ih =>
      obtain ⟨line, others, rfl, inLine, stops⟩ := exists_run (!isBreak ·) text
      simp only [Bool.not_eq_true', Bool.not_eq_false'] at inLine stops
      have someLine : line ≠ [] := by
        rintro rfl
        obtain ⟨c, others, rfl⟩ := List.exists_cons_of_ne_nil some
        have notBreak := starts c rfl
        rw [stops c rfl] at notBreak
        cases notBreak
      cases others with
      | nil =>
          rw [List.append_nil]
          exact .line someLine inLine
      | cons c others =>
          obtain ⟨breaks, more, rfl, allBreaks, moreStarts⟩ := exists_run isBreak others
          simp only [List.forall_mem_append, List.forall_mem_cons] at printable
          obtain ⟨-, printableBreak, printableBreaks, printableMore⟩ := printable
          have all : ∀ d ∈ c :: breaks, isBreak d = true ∧ isPrintable d = true := by
            rw [List.forall_mem_cons]
            exact ⟨⟨stops c rfl, printableBreak⟩,
              fun d member => ⟨allBreaks d member, printableBreaks d member⟩⟩
          by_cases nothing : more = []
          · obtain rfl := nothing
            rw [List.append_nil]
            exact .breaks someLine inLine all
          · refine
              .next someLine inLine all (ih more.length ?_ nothing moreStarts printableMore rfl)
            simp only [List.length_append, List.length_cons] at bound
            omega

/-- The lines end where a line is not indented. -/
theorem readBlockLines_of_column_ne (fuel : Nat) (lines : BlockLines) {cursor : Cursor}
    (outside : cursor.mark.column ≠ indent)
    : readBlockLines true indent start fuel lines cursor = .ok (lines, cursor) := by
  cases fuel with
  | zero => rfl
  | succ fuel => simp [readBlockLines, outside]

/-- One line, its break, and the empty lines behind it. -/
theorem readBlockLines_line (fuel : Nat) (start : Mark) {line breaks : List Char} {c : Char}
    (inLine : ∀ d ∈ line, isBreak d = false)
    (all : ∀ d ∈ c :: breaks, isBreak d = true ∧ isPrintable d = true)
    (within : count ≤ indent) (starts : ∀ d ∈ rest.head?, isBreak d = false)
    (short : count < indent → EndsGap rest) (inside : mark.column = indent) (lines : BlockLines)
    : ∃ wasBlank next,
        readBlockLines true indent start (fuel + 1) lines
          ⟨line ++ c :: breaks ++ (List.replicate count ' ' ++ rest), mark⟩
        = readBlockLines true indent start fuel
            ⟨lines.finish .keep ++ line, [c], breaks, wasBlank⟩
            ⟨rest, next⟩
        ∧ next.column = count := by
  obtain ⟨isBreak, printable⟩ := all c List.mem_cons_self
  have span
      : Cursor.span (!Yaml.isBreak ·)
          ⟨line ++ c :: breaks ++ (List.replicate count ' ' ++ rest), mark⟩
        = (line,
            ⟨c :: breaks ++ (List.replicate count ' ' ++ rest), mark.advance line.length⟩) := by
    rw [List.append_assoc]
    exact Cursor.span_append mark (by simpa using inLine) (by simpa using isBreak)
  have atLine : ((mark.advance line.length).newline 1).column = 0 := rfl
  obtain ⟨wide, next, empty, isCount⟩ :=
    readEmptyLines_eq start (fun d member => all d (List.mem_cons_of_mem c member)) within starts
      short atLine (Nat.le_refl _) [] 0
  refine
    ⟨Cursor.atBlank ⟨line ++ c :: breaks ++ (List.replicate count ' ' ++ rest), mark⟩, next, ?_,
      isCount⟩
  rw [readBlockLines, span]
  dsimp only
  rw [List.cons_append, Cursor.readBreak_cons _ isBreak printable]
  dsimp only
  rw [empty]
  simp [inside, bind, Except.bind, BlockLines.joined, BlockLines.finish]

/-- The last line, its break, and the empty lines behind it. -/
theorem readBlockLines_last (fuel : Nat) (start : Mark) {line breaks : List Char} {c : Char}
    (inLine : ∀ d ∈ line, isBreak d = false)
    (all : ∀ d ∈ c :: breaks, isBreak d = true ∧ isPrintable d = true) (ends : EndsGap rest)
    (outside : column < indent) (inside : mark.column = indent) (lines : BlockLines)
    : ∃ wasBlank next,
        readBlockLines true indent start (fuel + 1) lines
          ⟨line ++ c :: breaks ++ (List.replicate column ' ' ++ rest), mark⟩
        = .ok (⟨lines.finish .keep ++ line, [c], breaks, wasBlank⟩, ⟨rest, next⟩)
        ∧ next.column = column := by
  obtain ⟨wasBlank, next, read, isColumn⟩ :=
    readBlockLines_line fuel start inLine all (Nat.le_of_lt outside) ends.isBreak_eq_false
      (fun _ => ends) inside lines
  refine ⟨wasBlank, next, ?_, isColumn⟩
  rw [read]
  exact readBlockLines_of_column_ne fuel _ (by dsimp only; omega)

/-- The lines of a text are read up to the line that follows, which is not indented as they are.
The induction is on the lines.
-/
theorem IsLines.readBlockLines_eq {text : List Char} (isLines : IsLines text) (start : Mark)
    (ends : EndsGap rest) (outside : column < 4) (inside : mark.column = 4)
    (enough : text.length ≤ fuel) (lines : BlockLines)
    : ∃ found next,
        readBlockLines true 4 start fuel lines
          ⟨Written.indent false text ++ Written.ending text ++ (List.replicate column ' ' ++ rest),
            mark⟩
        = .ok (found, ⟨rest, next⟩)
        ∧ found.finish (Written.chomping text) = lines.finish .keep ++ text
        ∧ next.column = column := by
  obtain ⟨fuel, rfl⟩ := isLines.exists_fuel enough
  induction isLines generalizing mark fuel lines with
  | line some inLine =>
      obtain ⟨wasBlank, next, read, isColumn⟩ :=
        readBlockLines_last fuel start inLine isBreak_of_mem_feed ends outside inside lines
      rw [Written.ending_line inLine, Written.indent_of_line inLine, Written.chomping_line inLine]
      exact ⟨_, next, read, rfl, isColumn⟩
  | @breaks line c breaks some inLine all =>
      obtain ⟨wasBlank, next, read, isColumn⟩ :=
        readBlockLines_last fuel start inLine all ends outside inside lines
      have written := Written.indent_lines inLine (fun d member => (all d member).1) []
      rw [List.append_nil, Written.indent_nil, List.append_nil] at written
      rw [written, Written.ending_breaks line fun d member => (all d member).1, List.append_nil]
      refine ⟨_, next, read, ?_, isColumn⟩
      rw [Written.chomping_breaks some inLine fun d member => (all d member).1]
      cases breaks with
      | nil => simp [BlockLines.finish]
      | cons d breaks => simp [BlockLines.finish]
  | @next line c breaks more some inLine all isMore ih =>
      have shorter : more.length ≤ fuel := by
        simp only [List.length_append, List.length_cons] at enough
        omega
      obtain ⟨d, others, found, notBreak⟩ := isMore.exists_cons
      have someMore : more ≠ [] := by simp [found]
      have starts : ∀ e ∈ more.head?, isBreak e = false := by simp [found, notBreak]
      have starts'
          : ∀ e ∈ (Written.indent false more ++ Written.ending more
              ++ (List.replicate column ' ' ++ rest)).head?, isBreak e = false := by
        simp [found, Written.indent, notBreak]
      obtain ⟨wasBlank, middle, read, isMiddle⟩ :=
        readBlockLines_line fuel start inLine all (Nat.le_refl 4) starts' nofun inside lines
      obtain ⟨fuel, rfl⟩ := isMore.exists_fuel shorter
      obtain ⟨last, next, readMore, finish, isColumn⟩ :=
        ih isMiddle ⟨lines.finish .keep ++ line, [c], breaks, wasBlank⟩ fuel shorter
      refine ⟨last, next, ?_, ?_, isColumn⟩
      · have ending : Written.ending (line ++ c :: (breaks ++ more)) = Written.ending more := by
          simpa using Written.ending_append (line ++ c :: breaks) someMore
        rw [ending, Written.indent_lines inLine (fun e member => (all e member).1),
          Written.indent_true someMore starts]
        simpa only [List.append_assoc, List.cons_append] using read.trans readMore
      · have chomping
            : Written.chomping (line ++ c :: (breaks ++ more)) = Written.chomping more := by
          simpa using Written.chomping_append (line ++ c :: breaks) someMore starts
        rw [chomping, finish]
        simp [BlockLines.finish]

-----------------------------------------------------------------------------------------
-- Headers
-----------------------------------------------------------------------------------------

/-- A header is read up to the end of its line. -/
theorem readHeaderParts_eq (text : List Char) (start mark : Mark) (tail : List Char)
    : ∃ next,
        readHeaderParts start
          ⟨Written.indentHint text ++ Written.endHint text ++ '\n' :: tail, mark⟩
        = .ok
            (⟨Written.chomping text, if Written.hidesIndent text then some 2 else none⟩,
              ⟨'\n' :: tail, next⟩) := by
  rw [Written.indentHint_eq, Written.endHint_eq]
  cases Written.hidesIndent text <;> cases Written.chomping text <;> exact ⟨_, rfl⟩

theorem endHeader_eq (start mark : Mark) (tail : List Char)
    : endHeader start ⟨'\n' :: tail, mark⟩ = .ok ⟨tail, mark.newline 1⟩ := by
  rfl

/-- The indentation that a header gives for the lines of a text. -/
def givenIndent (text : List Char) : Option Nat :=
  if Written.hidesIndent text then some 4 else none

/-- Behind its header a block is read as empty lines and the lines behind them. -/
theorem readBlock_eq (text tail : List Char) (mark : Mark)
    : ∃ header : Mark,
        header.column = 0
        ∧ readBlock true 3 ⟨Written.literal text ++ tail, mark⟩
          = (do
              let (breaks, widest, cursor) ←
                readEmptyLines (givenIndent text) mark
                  ((Written.indent true text ++ tail).length + 1) [] 0
                  ⟨Written.indent true text ++ tail, header⟩
              let (lines, cursor) ←
                readBlockLines true ((givenIndent text).getD (max (max widest 3) 1)) mark
                  cursor.rest.length ⟨[], [], breaks, false⟩ cursor
              .ok ⟨lines.finish (Written.chomping text), true, cursor⟩) := by
  obtain ⟨header, header_eq⟩ :=
    readHeaderParts_eq text mark (mark.advance 1) (Written.indent true text ++ tail)
  refine ⟨header.newline 1, rfl, ?_⟩
  have given : (if Written.hidesIndent text then some 2 else none).map (3 - 1 + ·)
      = givenIndent text := by
    unfold givenIndent
    split <;> rfl
  unfold readBlock
  rw [Written.literal]
  simp only [List.cons_append, List.append_assoc, Cursor.skip_succ, Cursor.skip_zero] at header_eq ⊢
  rw [header_eq]
  simp only [bind, Except.bind, endHeader_eq, given]

/-- The empty lines in front of the first line, and its indentation. -/
theorem readEmptyLines_first {breaks more : List Char} (tail : List Char)
    (all : ∀ c ∈ breaks, isBreak c = true ∧ isPrintable c = true) (isLines : IsLines more)
    (printable : ∀ c ∈ more, isPrintable c = true) (start : Mark) (atLine : mark.column = 0)
    : ∃ wide next,
        readEmptyLines (givenIndent (breaks ++ more)) start
          ((Written.indent true (breaks ++ more) ++ tail).length + 1) [] 0
          ⟨Written.indent true (breaks ++ more) ++ tail, mark⟩
        = .ok (breaks, wide, ⟨Written.indent false more ++ tail, next⟩)
        ∧ next.column = 4
        ∧ (givenIndent (breaks ++ more)).getD (max (max wide 3) 1) = 4 := by
  obtain ⟨c, others, found, notBreak⟩ := isLines.exists_cons
  have someMore : more ≠ [] := by simp [found]
  have starts : ∀ e ∈ more.head?, isBreak e = false := by simp [found, notBreak]
  rw [Written.indent_breaks fun c member => (all c member).1, Written.indent_true someMore starts]
  simp only [List.append_assoc]
  unfold givenIndent
  cases hides : Written.hidesIndent (breaks ++ more) with
  | true =>
      have starts' : ∀ e ∈ (Written.indent false more ++ tail).head?, isBreak e = false := by
        simp [found, Written.indent, notBreak]
      obtain ⟨wide, next, read, isColumn⟩ :=
        readEmptyLines_eq start all (Nat.le_refl 4) starts' nofun atLine (Nat.le_succ _) [] 0
      exact ⟨wide, next, read, isColumn, rfl⟩
  | false =>
      obtain rfl : breaks = [] := by
        cases breaks with
        | nil => rfl
        | cons d breaks => simp [Written.hidesIndent, (all d List.mem_cons_self).1] at hides
      have solid := Written.isSolid_of_hidesIndent hides printable c (by simp [found])
      have ends : EndsGap (Written.indent false more ++ tail) := by
        simpa [found, Written.indent, notBreak] using EndsGap.cons solid _
      exact ⟨4, mark.advance 4, readEmptyLines_none ends atLine, by simp [atLine], rfl⟩

/-- A text of breaks alone is read back up to the line that follows. -/
theorem readBlock_breaks {c : Char} {breaks : List Char}
    (all : ∀ d ∈ c :: breaks, isBreak d = true ∧ isPrintable d = true) (ends : EndsGap rest)
    (outside : column < 4) (mark : Mark)
    : ∃ next,
        readBlock true 3
          ⟨Written.literal (c :: breaks)
            ++ (Written.ending (c :: breaks) ++ (List.replicate column ' ' ++ rest)), mark⟩
        = .ok ⟨c :: breaks, true, ⟨rest, next⟩⟩
        ∧ next.column = column := by
  have isBreaks : ∀ d ∈ c :: breaks, isBreak d = true := fun d member => (all d member).1
  obtain ⟨header, atLine, read⟩ :=
    readBlock_eq (c :: breaks) (Written.ending (c :: breaks) ++ (List.replicate column ' ' ++ rest))
      mark
  have written : Written.indent true (c :: breaks) = c :: breaks := by
    simpa only [List.append_nil, Written.indent_nil] using Written.indent_breaks isBreaks []
  have noEnding : Written.ending (c :: breaks) = [] := Written.ending_breaks [] isBreaks
  have given : givenIndent (c :: breaks) = some 4 := by
    simp [givenIndent, Written.hidesIndent, isBreaks c List.mem_cons_self]
  obtain ⟨wide, next, empty, isColumn⟩ :=
    readEmptyLines_eq mark all (Nat.le_of_lt outside) ends.isBreak_eq_false (fun _ => ends) atLine
      (Nat.le_succ _) [] 0
  refine ⟨next, ?_, isColumn⟩
  rw [read, noEnding, written, given, List.nil_append, empty]
  simp only [bind, Except.bind]
  rw [readBlockLines_of_column_ne _ _ (by dsimp only [Option.getD]; omega)]
  dsimp only
  rw [Written.chomping_of_breaks isBreaks]
  rfl

/-- A text with a line in it is read back up to the line that follows. -/
theorem readBlock_lines {breaks more : List Char}
    (all : ∀ c ∈ breaks, isBreak c = true ∧ isPrintable c = true) (some : more ≠ [])
    (starts : ∀ c ∈ more.head?, isBreak c = false) (printable : ∀ c ∈ more, isPrintable c = true)
    (ends : EndsGap rest) (outside : column < 4) (mark : Mark)
    : ∃ next,
        readBlock true 3
          ⟨Written.literal (breaks ++ more)
            ++ (Written.ending (breaks ++ more) ++ (List.replicate column ' ' ++ rest)), mark⟩
        = .ok ⟨breaks ++ more, true, ⟨rest, next⟩⟩
        ∧ next.column = column := by
  have isLines := isLines_of_printable some starts printable
  rw [Written.ending_append breaks some]
  obtain ⟨header, atLine, read⟩ :=
    readBlock_eq (breaks ++ more) (Written.ending more ++ (List.replicate column ' ' ++ rest)) mark
  obtain ⟨wide, middle, first, inside, isIndent⟩ :=
    readEmptyLines_first (Written.ending more ++ (List.replicate column ' ' ++ rest)) all isLines
      printable mark atLine
  have enough
      : more.length
        ≤ (Written.indent false more
            ++ (Written.ending more ++ (List.replicate column ' ' ++ rest))).length := by
    rw [List.length_append]
    exact Nat.le_trans (Written.length_le_indent false more) (Nat.le_add_right _ _)
  obtain ⟨last, next, lines, finish, isColumn⟩ :=
    isLines.readBlockLines_eq mark ends outside inside enough ⟨[], [], breaks, false⟩
  refine ⟨next, ?_, isColumn⟩
  rw [List.append_assoc] at lines
  rw [read, first]
  simp only [bind, Except.bind]
  rw [isIndent, lines]
  dsimp only
  rw [Written.chomping_append breaks some starts, finish]
  rfl

/-- A text that is written line by line is read back up to the line that follows. -/
theorem readBlock_literal {text : List Char} (allows : Written.allowsLiteral text = true)
    (ends : EndsGap rest) (outside : column < 4) (mark : Mark)
    : ∃ next,
        readBlock true 3
          ⟨Written.literal text ++ (Written.ending text ++ (List.replicate column ' ' ++ rest)),
            mark⟩
        = .ok ⟨text, true, ⟨rest, next⟩⟩
        ∧ next.column = column := by
  obtain ⟨printable, some⟩ := Written.of_allowsLiteral allows
  obtain ⟨breaks, more, rfl, isBreaks, starts⟩ := exists_run isBreak text
  rw [List.forall_mem_append] at printable
  have all : ∀ c ∈ breaks, isBreak c = true ∧ isPrintable c = true :=
    fun c member => ⟨isBreaks c member, printable.1 c member⟩
  by_cases nothing : more = []
  · obtain rfl := nothing
    rw [List.append_nil] at some ⊢
    obtain ⟨c, others, rfl⟩ := List.exists_cons_of_ne_nil some
    exact readBlock_breaks all ends outside mark
  · exact readBlock_lines all nothing starts printable.2 ends outside mark

end Reading

end SatClient.Yaml
