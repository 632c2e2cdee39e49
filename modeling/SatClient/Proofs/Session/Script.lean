import SatClient.Proofs.Formula.Blank
import SatClient.Session.Interactive

/-! Scripts of a session: lines that are typed and answers that come in, in any order. What a
script says on its own is told apart here from what a session makes of it: which lines are
formulas, which submissions are answered, and whether each is answered once, after it was
made.
-/

namespace SatClient

namespace Session

/-- The lines of a script that are formulas, in order. -/
def acceptedLines : List Step → List String
  | [] => []
  | .line text :: rest =>
      if isWellFormed text then text :: acceptedLines rest else acceptedLines rest
  | .answer _ _ :: rest => acceptedLines rest

/-- The numbers of the submissions that a script answers, in order. -/
def answeredIds : List Step → List Nat
  | [] => []
  | .line _ :: rest => answeredIds rest
  | .answer id _ :: rest => id :: answeredIds rest

/-- What becomes of the answers of a script when `made` submissions were made before it: the
outcome is shown if no later submission has been made, and dropped otherwise.
-/
def verdicts (made : Nat) : List Step → List (Nat × Option Outcome)
  | [] => []
  | .line text :: rest => verdicts (if isWellFormed text then made + 1 else made) rest
  | .answer id outcome :: rest =>
      (id, if id = made then some outcome else none) :: verdicts made rest

/-- Each submission is answered exactly once, and not before its line was typed. -/
structure AnswersEach (script : List Step) : Prop where
  once : (answeredIds script).Perm (List.range' 1 (acceptedLines script).length)
  later
    : ∀ {front id outcome rest},
        script = front ++ .answer id outcome :: rest → id ≤ (acceptedLines front).length

/-- The submission of a line, numbered by its place among the lines that are formulas. -/
def Made (lines : List String) (submission : Submission) : Prop :=
  ∃ index,
    submission.id = index + 1
    ∧ lines[index]? = some submission.formula.text
    ∧ checkText submission.formula.text = .ok submission.checked

-----------------------------------------------------------------------------------------
-- Scripts in parts
-----------------------------------------------------------------------------------------

theorem acceptedLines_append (front back : List Step)
    : acceptedLines (front ++ back) = acceptedLines front ++ acceptedLines back := by
  induction front with
  | nil => rfl
  | cons step rest ih =>
      cases step with
      | line text =>
          by_cases accepted : isWellFormed text = true <;>
            simp [acceptedLines, accepted, ih]
      | answer => exact ih

theorem answeredIds_append (front back : List Step)
    : answeredIds (front ++ back) = answeredIds front ++ answeredIds back := by
  induction front with
  | nil => rfl
  | cons step rest ih =>
      cases step with
      | line => exact ih
      | answer id outcome => simp [answeredIds, ih]

/-- The verdicts of two parts, by induction on the first. -/
theorem verdicts_append (made : Nat) (front back : List Step)
    : verdicts made (front ++ back)
      = verdicts made front ++ verdicts (made + (acceptedLines front).length) back := by
  induction front generalizing made with
  | nil => rfl
  | cons step rest ih =>
      cases step with
      | line text =>
          by_cases accepted : isWellFormed text = true
          · simp only [List.cons_append, verdicts, acceptedLines, if_pos accepted, ih,
              List.length_cons]
            congr 2
            omega
          · simp only [List.cons_append, verdicts, acceptedLines, if_neg accepted, ih]
      | answer id outcome => simp only [List.cons_append, verdicts, acceptedLines, ih]

/-- Every answer has a verdict, by induction on the script. -/
theorem map_fst_verdicts (made : Nat) (script : List Step)
    : (verdicts made script).map Prod.fst = answeredIds script := by
  induction script generalizing made with
  | nil => rfl
  | cons step rest ih =>
      cases step with
      | line text => exact ih _
      | answer id outcome => simp only [verdicts, answeredIds, List.map_cons, ih]

theorem isWellFormed_of_mem_acceptedLines {script : List Step} {text : String}
    (member : text ∈ acceptedLines script)
    : isWellFormed text = true := by
  induction script with
  | nil => cases member
  | cons step rest ih =>
      cases step with
      | answer => exact ih member
      | line first =>
          simp only [acceptedLines] at member
          split at member
          next accepted =>
            rcases List.mem_cons.mp member with rfl | member
            · exact accepted
            · exact ih member
          next => exact ih member

theorem AnswersEach.nodup {script : List Step} (each : AnswersEach script)
    : (answeredIds script).Nodup :=
  each.once.nodup_iff.mpr List.nodup_range'

theorem AnswersEach.mem_iff {script : List Step} (each : AnswersEach script) {id : Nat}
    : id ∈ answeredIds script ↔ 0 < id ∧ id ≤ (acceptedLines script).length := by
  rw [each.once.mem_iff, List.mem_range'_1]
  omega

/-- A step that can follow in a script that answers each submission once: an answer is for a
submission that was made and not answered.
-/
def CanFollow (front : List Step) : Step → Prop
  | .line _ => True
  | .answer id _ =>
      0 < id ∧ id ≤ (acceptedLines front).length ∧ id ∉ answeredIds front

/-- Every step of such a script can follow the steps before it. -/
theorem AnswersEach.canFollow {script front rest : List Step} {step : Step}
    (each : AnswersEach script) (same : script = front ++ step :: rest)
    : CanFollow front step := by
  cases step with
  | line => trivial
  | answer id outcome =>
      have nodup := each.nodup
      have member : id ∈ answeredIds script := by
        simp [same, answeredIds_append, answeredIds]
      rw [same, answeredIds_append, answeredIds] at nodup
      have apart := (List.nodup_append.mp nodup).2.2
      refine ⟨(each.mem_iff.mp member).1, each.later same, ?_⟩
      intro earlier
      exact apart id earlier id List.mem_cons_self rfl

-----------------------------------------------------------------------------------------
-- Submissions
-----------------------------------------------------------------------------------------

theorem Made.unique {lines : List String} {first second : Submission} (made : Made lines first)
    (also : Made lines second) (same : first.id = second.id)
    : first = second := by
  obtain ⟨index, isId, isText, isChecked⟩ := made
  obtain ⟨index', isId', isText', isChecked'⟩ := also
  obtain rfl : index = index' := by omega
  have sameText := Option.some.inj (isText.symm.trans isText')
  rw [sameText] at isChecked
  have sameChecked := Except.ok.inj (isChecked.symm.trans isChecked')
  obtain ⟨id, ⟨text, _⟩, checked⟩ := first
  obtain ⟨id', ⟨text', _⟩, checked'⟩ := second
  cases same
  cases sameText
  cases sameChecked
  rfl

/-- Every line that is a formula has a submission. -/
theorem exists_made {script : List Step} {id : Nat} (positive : 0 < id)
    (within : id ≤ (acceptedLines script).length)
    : ∃ submission, Made (acceptedLines script) submission ∧ submission.id = id := by
  obtain ⟨index, rfl⟩ : ∃ index, id = index + 1 := ⟨id - 1, by omega⟩
  have found : (acceptedLines script)[index]? = some (acceptedLines script)[index] :=
    List.getElem?_eq_getElem within
  have accepted := isWellFormed_of_mem_acceptedLines (List.getElem_mem within)
  obtain ⟨checked, check⟩ := exists_checked_iff.mpr accepted
  exact ⟨⟨index + 1, ⟨_, not_blank_of_isWellFormed accepted⟩, checked⟩,
    ⟨index, rfl, found, check⟩, rfl⟩

theorem Made.bounds {lines : List String} {submission : Submission} (made : Made lines submission)
    : 0 < submission.id ∧ submission.id ≤ lines.length := by
  obtain ⟨index, isId, isText, _⟩ := made
  obtain ⟨short, _⟩ := List.getElem?_eq_some_iff.mp isText
  omega

theorem Made.append {lines : List String} {submission : Submission}
    (made : Made lines submission) (more : List String)
    : Made (lines ++ more) submission := by
  obtain ⟨index, isId, isText, isChecked⟩ := made
  obtain ⟨short, _⟩ := List.getElem?_eq_some_iff.mp isText
  exact ⟨index, isId, by rw [List.getElem?_append_left short, isText], isChecked⟩

/-- With one more line there is one more submission. -/
theorem made_append_singleton_iff {lines : List String} {text : String} {latest : Submission}
    (isLatest : latest.id = lines.length + 1) (isText : latest.formula.text = text)
    (isChecked : checkText text = .ok latest.checked) {submission : Submission}
    : Made (lines ++ [text]) submission ↔ Made lines submission ∨ submission = latest := by
  have madeLatest : Made (lines ++ [text]) latest :=
    ⟨lines.length, isLatest, by simp [isText], isText ▸ isChecked⟩
  constructor
  · intro made
    have bounds := made.bounds
    rw [List.length_append, List.length_singleton] at bounds
    by_cases isLast : submission.id = lines.length + 1
    · exact .inr (made.unique madeLatest (isLast.trans isLatest.symm))
    · left
      obtain ⟨index, isId, found, passed⟩ := made
      rw [List.getElem?_append_left (by omega)] at found
      exact ⟨index, isId, found, passed⟩
  · rintro (made | rfl)
    · exact made.append [text]
    · exact madeLatest

end Session

end SatClient
