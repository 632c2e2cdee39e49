import SatClient.Program.Interactive
import SatClient.Proofs.Session.Script

/-! A session shows the result of a submission only while it is the latest. After any steps the
session is told by the script alone: how many submissions there were, which of them wait, what
was shown about each, and which result is on display. Every kind of step keeps that, so that it
holds of every script.
-/

namespace SatClient

open Program (submissionOf?)

/-- What something shown says about an answer: the number, and the outcome unless it was
dropped.
-/
def Shown.verdict? : Shown → Option (Nat × Option Outcome)
  | .result submission outcome => some (submission.id, some outcome)
  | .superseded id => some (id, none)
  | _ => none

/-- A submission as it was announced: its number and its text. -/
def Submission.label (submission : Submission) : Nat × String :=
  (submission.id, submission.formula.text)

-----------------------------------------------------------------------------------------
-- Typed lines
-----------------------------------------------------------------------------------------

namespace Session

/-- A line that is no formula leaves the session as it is and is shown as blank or rejected.
-/
theorem typed_of_rejected (session : Session) {text : String}
    (rejected : isWellFormed text = false)
    : ∃ shown,
        session.typed text = (session, shown)
        ∧ submissionOf? shown = none
        ∧ shown.verdict? = none := by
  rw [typed]
  cases found : Formula.ofString? text with
  | none => exact ⟨_, rfl, rfl, rfl⟩
  | some formula =>
      cases check : formula.check with
      | error fault => exact ⟨.rejected formula.text fault, by simp only [check], rfl, rfl⟩
      | ok checked =>
          obtain rfl := Formula.text_of_ofString? found
          rw [exists_checked_iff.mp ⟨checked, check⟩] at rejected
          cases rejected

/-- A line that is a formula is submitted under the next number and waits. -/
theorem typed_of_accepted (session : Session) {text : String}
    (accepted : isWellFormed text = true)
    : ∃ submission : Submission,
        submission.id = session.tracker.issued + 1
        ∧ submission.formula.text = text
        ∧ checkText text = .ok submission.checked
        ∧ session.typed text
          = (⟨{ session.tracker with issued := session.tracker.issued + 1 },
                session.waiting ++ [submission]⟩,
              .submitted submission) := by
  have notBlank := not_blank_of_isWellFormed accepted
  obtain ⟨checked, check⟩ := exists_checked_iff.mpr accepted
  refine ⟨⟨session.tracker.issued + 1, ⟨text, notBlank⟩, checked⟩, rfl, rfl, check, ?_⟩
  have passed : Formula.check ⟨text, notBlank⟩ = .ok checked := check
  simp only [typed, Formula.ofString?_of_not_blank notBlank, passed, Tracker.submit]

-----------------------------------------------------------------------------------------
-- Answers
-----------------------------------------------------------------------------------------

/-- An answer to the latest submission is kept and shown, one to an earlier submission is
dropped. In both cases nobody waits for it any more.
-/
theorem answered_cases (session : Session) {submission : Submission} (outcome : Outcome)
    (positive : 0 < submission.id)
    : (submission.id = session.tracker.issued
        ∧ session.answered submission outcome
          = (⟨{ session.tracker with latest := some (submission.answeredBy outcome) },
                session.waiting.filter (·.id != submission.id)⟩,
              .result submission outcome))
      ∨ (submission.id ≠ session.tracker.issued
        ∧ session.answered submission outcome
          = (⟨session.tracker, session.waiting.filter (·.id != submission.id)⟩,
              .superseded submission.id)) := by
  have isCurrent : session.tracker.current = some (submission.answeredBy outcome).id
      ↔ submission.id = session.tracker.issued := by
    simp only [Tracker.current, Submission.answeredBy]
    split
    · simp
      omega
    · simp [eq_comm]
  by_cases latest : submission.id = session.tracker.issued
  · left
    simp only [answered, Tracker.resolve, if_pos (isCurrent.mpr latest)]
    exact ⟨latest, rfl⟩
  · right
    simp only [answered, Tracker.resolve, if_neg (fun same => latest (isCurrent.mp same))]
    exact ⟨latest, rfl⟩

theorem waiting?_of_mem {session : Session} {submission : Submission}
    (member : submission ∈ session.waiting)
    : ∃ found ∈ session.waiting,
        found.id = submission.id ∧ session.waiting? submission.id = some found := by
  cases search : session.waiting? submission.id with
  | none =>
      have absent := List.find?_eq_none.mp search submission member
      simp at absent
  | some found =>
      exact ⟨found, List.mem_of_find?_eq_some search, by simpa using List.find?_some search, rfl⟩

-----------------------------------------------------------------------------------------
-- What a script has led to
-----------------------------------------------------------------------------------------

/-- A session after a script, with what was shown. -/
structure Follows (script : List Step) (session : Session) (shown : List Shown) : Prop where
  issued : session.tracker.issued = (acceptedLines script).length
  waiting
    : ∀ {submission},
        submission ∈ session.waiting
        ↔ Made (acceptedLines script) submission ∧ submission.id ∉ answeredIds script
  answered : ∀ id ∈ answeredIds script, id ≤ (acceptedLines script).length
  labels
    : (shown.filterMap submissionOf?).map Submission.label
      = (List.range' 1 (acceptedLines script).length).zip (acceptedLines script)
  settled : shown.filterMap Shown.verdict? = verdicts 0 script
  results
    : ∀ {submission outcome},
        .result submission outcome ∈ shown → Made (acceptedLines script) submission
  display
    : ∀ {submission outcome},
        .result submission outcome ∈ shown
        → submission.id = (acceptedLines script).length
        → session.tracker.latest = some (submission.answeredBy outcome)
  nothing : acceptedLines script = [] → session.tracker.latest = none

theorem Follows.start : Follows [] Session.start [] where
  issued := rfl
  waiting := by
    intro submission
    constructor
    · intro member
      cases member
    · rintro ⟨made, _⟩
      have bounds := made.bounds
      simp only [acceptedLines, List.length_nil] at bounds
      omega
  answered := by simp [answeredIds]
  labels := rfl
  settled := rfl
  results := by simp
  display := by simp
  nothing := fun _ => rfl

/-- A submission whose result was shown was answered. -/
theorem Follows.result_answered {script session shown} (follows : Follows script session shown)
    {submission : Submission} {outcome : Outcome} (member : .result submission outcome ∈ shown)
    : submission.id ∈ answeredIds script := by
  rw [← map_fst_verdicts 0, ← follows.settled]
  exact List.mem_map.mpr ⟨_, List.mem_filterMap.mpr ⟨_, member, rfl⟩, rfl⟩

theorem filterMap_append_singleton {α β : Type} (f : α → Option β) (members : List α) (last : α)
    : (members ++ [last]).filterMap f = members.filterMap f ++ (f last).toList := by
  rw [List.filterMap_append]
  cases found : f last <;> simp [found]

theorem result_mem_of_append {shown : List Shown} {seen : Shown} {submission : Submission}
    {outcome : Outcome} (member : .result submission outcome ∈ shown ++ [seen])
    (other : seen ≠ .result submission outcome)
    : .result submission outcome ∈ shown := by
  rcases List.mem_append.mp member with earlier | here
  · exact earlier
  · exact absurd (List.mem_singleton.mp here).symm other

/-- A line that is no formula changes nothing but what was shown. -/
theorem Follows.rejected {script session shown} (follows : Follows script session shown)
    {text : String} (rejected : isWellFormed text = false) {seen : Shown}
    (noLabel : submissionOf? seen = none) (noVerdict : seen.verdict? = none)
    : Follows (script ++ [.line text]) session (shown ++ [seen]) := by
  have lines : acceptedLines (script ++ [.line text]) = acceptedLines script := by
    simp [acceptedLines_append, acceptedLines, rejected]
  have ids : answeredIds (script ++ [.line text]) = answeredIds script := by
    simp [answeredIds_append, answeredIds]
  have noResult {submission outcome} : seen ≠ .result submission outcome := by
    rintro rfl
    cases noVerdict
  constructor
  · rw [lines]
    exact follows.issued
  · rw [lines, ids]
    exact follows.waiting
  · rw [lines, ids]
    exact follows.answered
  · rw [lines, filterMap_append_singleton, noLabel, ← follows.labels]
    simp
  · rw [filterMap_append_singleton, noVerdict, follows.settled, verdicts_append]
    rfl
  · intro submission outcome member
    rw [lines]
    exact follows.results (result_mem_of_append member noResult)
  · intro submission outcome member latest
    rw [lines] at latest
    exact follows.display (result_mem_of_append member noResult) latest
  · rw [lines]
    exact follows.nothing

/-- A line that is a formula adds a submission, and all that was shown is about others. -/
theorem Follows.accepted {script session shown} (follows : Follows script session shown)
    {text : String} (accepted : isWellFormed text = true) {submission : Submission}
    (isNext : submission.id = session.tracker.issued + 1)
    (isText : submission.formula.text = text)
    (isChecked : checkText text = .ok submission.checked)
    : Follows (script ++ [.line text])
        ⟨{ session.tracker with issued := session.tracker.issued + 1 },
          session.waiting ++ [submission]⟩
        (shown ++ [.submitted submission]) := by
  have lines : acceptedLines (script ++ [.line text]) = acceptedLines script ++ [text] := by
    simp [acceptedLines_append, acceptedLines, accepted]
  have ids : answeredIds (script ++ [.line text]) = answeredIds script := by
    simp [answeredIds_append, answeredIds]
  rw [follows.issued] at isNext
  constructor
  · simp [lines, follows.issued]
  · intro other
    rw [lines, ids, made_append_singleton_iff isNext isText isChecked]
    simp only [List.mem_append, List.mem_singleton, follows.waiting]
    constructor
    · rintro (⟨made, waits⟩ | rfl)
      · exact ⟨.inl made, waits⟩
      · refine ⟨.inr rfl, fun answered => ?_⟩
        have bound := follows.answered _ answered
        omega
    · rintro ⟨made | same, waits⟩
      · exact .inl ⟨made, waits⟩
      · exact .inr same
  · intro id answered
    rw [ids] at answered
    have bound := follows.answered id answered
    rw [lines, List.length_append]
    omega
  · rw [lines, filterMap_append_singleton, List.map_append, follows.labels, List.length_append,
      List.length_singleton, List.range'_concat, List.zip_append (by simp)]
    simp [submissionOf?, Submission.label, isText, isNext, Nat.add_comm]
  · rw [filterMap_append_singleton, follows.settled, verdicts_append]
    rfl
  · intro older outcome member
    rw [lines]
    exact (follows.results (result_mem_of_append member (by simp))).append [text]
  · -- Results that were shown are of older submissions.
    intro older outcome member latest
    have bounds := (follows.results (result_mem_of_append member (by simp))).bounds
    rw [lines, List.length_append, List.length_singleton] at latest
    omega
  · intro none
    rw [lines] at none
    simp at none

/-- Whatever is shown about an answer, its submission waits no more. What the tracker keeps
has to be the result that was shown for the latest submission.
-/
theorem Follows.settle {script session shown} (follows : Follows script session shown)
    {submission : Submission} {outcome : Outcome} (waits : submission ∈ session.waiting)
    {tracker : Tracker} {seen : Shown}
    (issued : tracker.issued = session.tracker.issued)
    (noLabel : submissionOf? seen = none)
    (verdict
      : seen.verdict?
        = some (submission.id,
            if submission.id = session.tracker.issued then some outcome else none))
    (own : ∀ {other result}, seen = .result other result → other = submission)
    (display
      : ∀ {other result},
          .result other result ∈ shown ++ [seen]
          → other.id = session.tracker.issued
          → tracker.latest = some (other.answeredBy result))
    : Follows (script ++ [.answer submission.id outcome])
        ⟨tracker, session.waiting.filter (·.id != submission.id)⟩
        (shown ++ [seen]) := by
  obtain ⟨made, notAnswered⟩ := follows.waiting.mp waits
  have bounds := made.bounds
  have lines : acceptedLines (script ++ [.answer submission.id outcome])
      = acceptedLines script := by
    simp [acceptedLines_append, acceptedLines]
  have ids : answeredIds (script ++ [.answer submission.id outcome])
      = answeredIds script ++ [submission.id] := by
    simp [answeredIds_append, answeredIds]
  constructor
  · rw [lines, issued, follows.issued]
  · intro other
    rw [lines, ids]
    simp only [List.mem_filter, follows.waiting, bne_iff_ne, List.mem_append,
      List.mem_singleton, not_or, and_assoc]
  · intro id member
    rw [ids] at member
    rw [lines]
    rcases List.mem_append.mp member with earlier | here
    · exact follows.answered id earlier
    · exact List.mem_singleton.mp here ▸ bounds.2
  · rw [lines, filterMap_append_singleton, noLabel, ← follows.labels]
    simp
  · rw [filterMap_append_singleton, verdict, follows.settled, verdicts_append, Nat.zero_add,
      follows.issued]
    rfl
  · intro other result member
    rw [lines]
    rcases List.mem_append.mp member with earlier | here
    · exact follows.results earlier
    · exact own (List.mem_singleton.mp here).symm ▸ made
  · intro other result member isLatest
    rw [lines, ← follows.issued] at isLatest
    exact display member isLatest
  · intro none
    rw [lines] at none
    rw [none, List.length_nil] at bounds
    omega

/-- An answer is shown exactly when its submission is the latest. -/
theorem Follows.answer {script session shown} (follows : Follows script session shown)
    {submission : Submission} (outcome : Outcome) (waits : submission ∈ session.waiting)
    : Follows (script ++ [.answer submission.id outcome])
        (session.answered submission outcome).1
        (shown ++ [(session.answered submission outcome).2]) := by
  obtain ⟨made, notAnswered⟩ := follows.waiting.mp waits
  rcases session.answered_cases outcome made.bounds.1 with ⟨latest, same⟩ | ⟨older, same⟩
  · rw [same]
    refine follows.settle waits rfl rfl (by rw [if_pos latest]; rfl) ?_ ?_
    · rintro other result ⟨⟩
      rfl
    · intro other result member isLatest
      rcases List.mem_append.mp member with earlier | here
      · -- The latest submission is answered only now, so no result of it was shown before.
        have answered := follows.result_answered earlier
        rw [isLatest, ← latest] at answered
        exact absurd answered notAnswered
      · cases List.mem_singleton.mp here
        rfl
  · rw [same]
    refine follows.settle waits rfl rfl (by rw [if_neg older]; rfl) ?_ ?_
    · rintro other result ⟨⟩
    · intro other result member isLatest
      rw [follows.issued] at isLatest
      exact follows.display (result_mem_of_append member (by simp)) isLatest

/-- Every kind of step that can follow keeps what is told by the script. -/
theorem Follows.step {script session shown} (follows : Follows script session shown)
    {step : Step} (can : CanFollow script step)
    : Follows (script ++ [step]) (session.step step).1 (shown ++ (session.step step).2) := by
  cases step with
  | line text =>
      cases accepted : isWellFormed text with
      | false =>
          obtain ⟨seen, same, noLabel, noVerdict⟩ := session.typed_of_rejected accepted
          simp only [Session.step, same]
          exact follows.rejected accepted noLabel noVerdict
      | true =>
          obtain ⟨submission, isNext, isText, isChecked, same⟩ :=
            session.typed_of_accepted accepted
          simp only [Session.step, same]
          exact follows.accepted accepted isNext isText isChecked
  | answer id outcome =>
      obtain ⟨positive, within, notAnswered⟩ := can
      obtain ⟨submission, made, rfl⟩ := exists_made positive within
      have waits := follows.waiting.mpr ⟨made, notAnswered⟩
      obtain ⟨found, member, sameId, search⟩ := waiting?_of_mem waits
      obtain rfl := (follows.waiting.mp member).1.unique made sameId
      simp only [Session.step, search]
      exact follows.answer outcome waits

/-- A whole run keeps it, by induction on the steps that are left. -/
theorem Follows.run {front rest session shown} (follows : Follows front session shown)
    (each : AnswersEach (front ++ rest))
    : Follows (front ++ rest) (session.run rest).1 (shown ++ (session.run rest).2) := by
  induction rest generalizing front session shown with
  | nil => simpa [Session.run] using follows
  | cons step rest ih =>
      have stepped := follows.step (each.canFollow rfl)
      rw [List.append_cons] at each ⊢
      rw [Session.run, ← List.append_assoc]
      exact ih stepped each

/-- What holds after a script that answers each submission. -/
theorem AnswersEach.follows {script : List Step} (each : AnswersEach script)
    : Follows script (Session.start.run script).1 (Session.start.run script).2 :=
  Follows.start.run each

end Session

end SatClient
