import SatClient.Proofs.Yaml.Cursor
import SatClient.Yaml.Token.Scalar

/-! The gaps in a scalar. Spaces on one line are a gap of their own, and of breaks with spaces
behind them only the breaks count.
-/

namespace SatClient.Yaml.Gap

variable {least fuel count : Nat} {start mark : Mark} {rest : List Char}

/-- A text goes on with something else than a gap. -/
def EndsGap (rest : List Char) : Prop := ∀ c ∈ rest.head?, isSolid (some c) = true

theorem EndsGap.nil : EndsGap [] := by
  intro c member
  cases member

theorem EndsGap.cons {c : Char} (solid : isSolid (some c) = true) (rest : List Char)
    : EndsGap (c :: rest) := by
  rintro d ⟨⟩
  exact solid

/-- A blank or a break would go on with the gap. -/
theorem EndsGap.head?_ne (ends : EndsGap rest) {c : Char} (gapped : isSolid (some c) = false)
    : rest.head? ≠ some c := by
  intro isHead
  rw [ends c isHead] at gapped
  cases gapped

theorem EndsGap.isBreak_eq_false (ends : EndsGap rest) : ∀ c ∈ rest.head?, isBreak c = false :=
  fun c isHead => (isSolid_some_iff.mp (ends c isHead)).2

theorem EndsGap.takeWhile_space (ends : EndsGap rest) : rest.takeWhile (· == ' ') = [] := by
  cases rest with
  | nil => rfl
  | cons c rest =>
      have other : c ≠ ' ' := fun same => ends.head?_ne rfl (congrArg some same)
      simp [other]

theorem read_of_endsGap (ends : EndsGap rest) (fuel : Nat) (gap : Gap)
    : read least start fuel gap ⟨rest, mark⟩ = .ok (gap, ⟨rest, mark⟩) := by
  cases fuel with
  | zero => rfl
  | succ fuel =>
      cases rest with
      | nil => rfl
      | cons c rest =>
          obtain ⟨notBlank, notBreak⟩ := isSolid_some_iff.mp (ends c rfl)
          simp [read, notBlank, notBreak]

/-- Some spaces at the end of a gap. -/
def pad (gap : Gap) (count : Nat) : Gap :=
  if gap.isBroken then gap else { gap with blanks := gap.blanks ++ List.replicate count ' ' }

theorem pad_zero (gap : Gap) : gap.pad 0 = gap := by
  simp [pad]

theorem pad_addBlank (gap : Gap) (count : Nat)
    : (gap.addBlank ' ').pad count = gap.pad (count + 1) := by
  obtain ⟨blanks, first, more⟩ := gap
  cases first <;> simp [pad, addBlank, isBroken, List.replicate_succ]

/-- Spaces are read to their end, by induction on their number. -/
theorem read_spaces (ends : EndsGap rest) (enough : count ≤ fuel) (gap : Gap)
    : read least start fuel gap ⟨List.replicate count ' ' ++ rest, mark⟩
      = .ok (gap.pad count, ⟨rest, mark.advance count⟩) := by
  induction count generalizing fuel gap mark with
  | zero =>
      rw [pad_zero]
      exact read_of_endsGap ends fuel gap
  | succ count ih =>
      obtain ⟨fuel, rfl⟩ : ∃ less, fuel = less + 1 := ⟨fuel - 1, by omega⟩
      have step
          : read least start (fuel + 1) gap ⟨List.replicate (count + 1) ' ' ++ rest, mark⟩
            = read least start fuel (gap.addBlank ' ')
                ⟨List.replicate count ' ' ++ rest, mark.advance 1⟩ := by
        simp [read, List.replicate_succ, isBlank]
      rw [step, ih (Nat.le_of_succ_le_succ enough), pad_addBlank, Mark.advance_advance,
        Nat.add_comm 1 count]

theorem read_break {c : Char} (breaks : isBreak c = true) (printable : isPrintable c = true)
    (fuel : Nat) (gap : Gap) (rest : List Char)
    : read least start (fuel + 1) gap ⟨c :: rest, mark⟩
      = read least start fuel (gap.addBreak [c]) ⟨rest, mark.newline 1⟩ := by
  have notBlank : isBlank c = false := by
    rcases cases_of_isBreak breaks printable with rfl | rfl | rfl <;> rfl
  simp [read, notBlank, breaks, Cursor.readBreak_cons _ breaks printable]

/-- Breaks behind the first one and the spaces behind them are read to their end, by induction on
the breaks.
-/
theorem read_more {breaks : List Char} (ends : EndsGap rest)
    (all : ∀ c ∈ breaks, isBreak c = true ∧ isPrintable c = true)
    (enough : breaks.length + count ≤ fuel) (atLine : mark.column = 0) (first more : List Char)
    : ∃ next,
        read least start fuel ⟨[], some first, more⟩
          ⟨breaks ++ (List.replicate count ' ' ++ rest), mark⟩
        = .ok (⟨[], some first, more ++ breaks⟩, ⟨rest, next⟩)
        ∧ next.column = count := by
  induction breaks generalizing fuel more mark with
  | nil =>
      refine ⟨mark.advance count, ?_, by simp [atLine]⟩
      rw [List.nil_append, read_spaces ends (by simpa using enough)]
      simp [pad, isBroken]
  | cons c breaks ih =>
      rw [List.length_cons] at enough
      obtain ⟨fuel, rfl⟩ : ∃ less, fuel = less + 1 := ⟨fuel - 1, by omega⟩
      obtain ⟨isBreak, printable⟩ := all c List.mem_cons_self
      rw [List.cons_append, read_break isBreak printable, List.append_cons]
      exact ih (fun d member => all d (List.mem_cons_of_mem c member)) (by omega) rfl (more ++ [c])

/-- A gap of breaks and of the spaces behind them. -/
theorem read_breaks {c : Char} {breaks : List Char} (ends : EndsGap rest)
    (all : ∀ d ∈ c :: breaks, isBreak d = true ∧ isPrintable d = true)
    (enough : breaks.length + 1 + count ≤ fuel)
    : ∃ next,
        read least start fuel .empty ⟨c :: breaks ++ (List.replicate count ' ' ++ rest), mark⟩
        = .ok (⟨[], some [c], breaks⟩, ⟨rest, next⟩)
        ∧ next.column = count := by
  obtain ⟨fuel, rfl⟩ : ∃ less, fuel = less + 1 := ⟨fuel - 1, by omega⟩
  obtain ⟨isBreak, printable⟩ := all c List.mem_cons_self
  rw [List.cons_append, read_break isBreak printable]
  exact read_more ends (fun d member => all d (List.mem_cons_of_mem c member)) (by omega) rfl [c] []

/-- A line feed and the indentation of the line behind it. -/
theorem read_feed (least : Nat) (start mark : Mark) (ends : EndsGap rest)
    (enough : 1 + count ≤ fuel)
    : ∃ next,
        read least start fuel .empty ⟨'\n' :: (List.replicate count ' ' ++ rest), mark⟩
        = .ok (⟨[], some ['\n'], []⟩, ⟨rest, next⟩)
        ∧ next.column = count := by
  exact read_breaks ends isBreak_of_mem_feed (by simpa using enough)

end SatClient.Yaml.Gap
