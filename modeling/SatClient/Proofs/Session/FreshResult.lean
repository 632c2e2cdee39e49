import Mathlib.Data.List.Nodup
import SatClient.Proofs.Formula.Acceptance
import SatClient.Proofs.Session.Freshness

/-! In every order of lines and answers a session shows each submission's result or drops it,
and shows it exactly when no later line was taken first. What the program prints is what the
session shows.
-/

namespace SatClient

-----------------------------------------------------------------------------------------
-- What the program prints
-----------------------------------------------------------------------------------------

namespace Program

/-- What happens while formulas are read, as the steps of a session: an answer is read by the
program before the session takes it, and one that nobody waits for is no step.
-/
def stepsOf (around : Surroundings) (rule : UnsatRule) (endpoint : Endpoint)
    (session : Session)
    : List Happening → List Session.Step
  | [] => []
  | .line text :: rest =>
      .line text :: stepsOf around rule endpoint (session.typed text).1 rest
  | .answer id behaviour :: rest =>
      match session.waiting? id with
      | none => stepsOf around rule endpoint session rest
      | some submission =>
          let outcome :=
            Outcome.ofResponse rule
              (answerTo around endpoint submission.formula behaviour).value
          .answer id outcome
            :: stepsOf around rule endpoint (session.answered submission outcome).1 rest

/-- What is shown, as lines of output. -/
def printed (paint : Paint) (shown : List Shown) : String :=
  String.join (shown.map fun seen => seen.text paint ++ "\n")

/-- A typed line prints what the session shows, and the session goes on from there. -/
theorem takeLine_eq (around : Surroundings) (endpoint : Endpoint) (course : Course)
    (session : Session) (text : String)
    : (takeLine around endpoint course session text).1.output
        = course.output ++ (session.typed text).2.text around.paint ++ "\n"
      ∧ (takeLine around endpoint course session text).2 = (session.typed text).1 := by
  simp only [takeLine]
  cases submissionOf? (session.typed text).2 with
  | none => exact ⟨rfl, rfl⟩
  | some submission => exact ⟨rfl, rfl⟩

/-- The program prints what the session shows, by induction on what happens. -/
theorem output_follow (around : Surroundings) (rule : UnsatRule) (endpoint : Endpoint)
    (course : Course) (session : Session) (happenings : List Happening)
    : (follow around rule endpoint course session happenings).output
      = course.output
        ++ printed around.paint
          (session.run (stepsOf around rule endpoint session happenings)).2 := by
  induction happenings generalizing course session with
  | nil => simp [follow, stepsOf, Session.run, printed]
  | cons happening rest ih =>
      cases happening with
      | line text =>
          obtain ⟨output, next⟩ := takeLine_eq around endpoint course session text
          simp only [follow, stepsOf, Session.run, Session.step, ih, output, next]
          simp [printed, String.append_assoc]
      | answer id behaviour =>
          cases search : session.waiting? id with
          | none => simp only [follow, takeAnswer, search, stepsOf, ih]
          | some submission =>
              simp only [follow, takeAnswer, search, stepsOf, Session.run, Session.step, ih]
              simp [printed, Course.print, Course.log, Course.trace, String.append_assoc]

end Program

open Program (submissionOf? stepsOf follow printed)

namespace Session

/-- Running two parts is running the second from where the first led, by induction on the
first.
-/
theorem run_append (session : Session) (front back : List Step)
    : session.run (front ++ back)
      = (((session.run front).1.run back).1,
          (session.run front).2 ++ ((session.run front).1.run back).2) := by
  induction front generalizing session with
  | nil => rfl
  | cons step rest ih => simp only [List.cons_append, run, ih, List.append_assoc]

-----------------------------------------------------------------------------------------
-- The answer to a submission
-----------------------------------------------------------------------------------------

/-- A number is answered where an answer carries it, by induction on the script. -/
theorem mem_answeredIds_iff {script : List Step} {id : Nat}
    : id ∈ answeredIds script
      ↔ ∃ front outcome rest, script = front ++ .answer id outcome :: rest := by
  constructor
  · intro member
    induction script with
    | nil => cases member
    | cons step rest ih =>
        cases step with
        | line text =>
            obtain ⟨front, outcome, back, rfl⟩ := ih member
            exact ⟨.line text :: front, outcome, back, rfl⟩
        | answer number outcome =>
            rcases List.mem_cons.mp member with rfl | member
            · exact ⟨[], outcome, rest, rfl⟩
            · obtain ⟨front, later, back, rfl⟩ := ih member
              exact ⟨.answer number outcome :: front, later, back, rfl⟩
  · rintro ⟨front, outcome, rest, rfl⟩
    simp [answeredIds_append, answeredIds]

/-- The submission of a line is answered after the line. -/
theorem AnswersEach.exists_answer {script front rest : List Step} {text : String}
    (each : AnswersEach script) (same : script = front ++ .line text :: rest)
    (accepted : isWellFormed text = true)
    : ∃ between outcome tail,
        rest = between ++ .answer ((acceptedLines front).length + 1) outcome :: tail := by
  have lines : acceptedLines script = acceptedLines front ++ text :: acceptedLines rest := by
    rw [same, acceptedLines_append, acceptedLines, if_pos accepted]
  have answered : (acceptedLines front).length + 1 ∈ answeredIds script := by
    rw [each.mem_iff, lines, List.length_append, List.length_cons]
    omega
  rw [same, answeredIds_append] at answered
  rcases List.mem_append.mp answered with early | late
  · -- An answer before the line would be for a submission that was not made yet.
    obtain ⟨before, outcome, after, isFront⟩ := mem_answeredIds_iff.mp early
    have split : script
        = before ++ .answer ((acceptedLines front).length + 1) outcome
            :: (after ++ .line text :: rest) := by
      rw [same, ← List.cons_append, ← List.append_assoc, ← isFront]
    have made := each.later split
    have shorter : (acceptedLines before).length ≤ (acceptedLines front).length := by
      rw [isFront, acceptedLines_append, List.length_append]
      omega
    omega
  · exact mem_answeredIds_iff.mp late

/-- The one verdict on a submission is told by the lines taken before its answer. -/
theorem AnswersEach.verdict_iff {script front rest : List Step} {id : Nat} {outcome : Outcome}
    (each : AnswersEach script) (same : script = front ++ .answer id outcome :: rest)
    {verdict : Option Outcome}
    : (id, verdict) ∈ verdicts 0 script
      ↔ verdict = if id = (acceptedLines front).length then some outcome else none := by
  have here
      : (id, if id = (acceptedLines front).length then some outcome else none)
        ∈ verdicts 0 script := by
    simp [same, verdicts_append, verdicts]
  have nodup : ((verdicts 0 script).map Prod.fst).Nodup := by
    rw [map_fst_verdicts]
    exact each.nodup
  constructor
  · intro member
    exact congrArg Prod.snd (List.inj_on_of_nodup_map nodup member here rfl)
  · rintro rfl
    exact here

-----------------------------------------------------------------------------------------
-- What was shown about a submission
-----------------------------------------------------------------------------------------

/-- The results that were shown are those that no later line preceded. -/
theorem Follows.result_iff {script session shown} (follows : Follows script session shown)
    {submission : Submission} {outcome : Outcome}
    : .result submission outcome ∈ shown
      ↔ Made (acceptedLines script) submission
        ∧ (submission.id, some outcome) ∈ verdicts 0 script := by
  constructor
  · intro member
    refine ⟨follows.results member, ?_⟩
    rw [← follows.settled]
    exact List.mem_filterMap.mpr ⟨_, member, rfl⟩
  · rintro ⟨made, member⟩
    rw [← follows.settled] at member
    obtain ⟨seen, isSeen, told⟩ := List.mem_filterMap.mp member
    cases seen with
    | result other result =>
        simp only [Shown.verdict?, Option.some.injEq, Prod.mk.injEq] at told
        obtain ⟨sameId, rfl⟩ := told
        obtain rfl := (follows.results isSeen).unique made sameId
        exact isSeen
    | blankLine => cases told
    | rejected => cases told
    | submitted => cases told
    | superseded => cases told

/-- The results that were dropped are the other ones. -/
theorem Follows.superseded_iff {script session shown} (follows : Follows script session shown)
    {id : Nat}
    : .superseded id ∈ shown ↔ (id, none) ∈ verdicts 0 script := by
  rw [← follows.settled, List.mem_filterMap]
  constructor
  · intro member
    exact ⟨_, member, rfl⟩
  · rintro ⟨seen, isSeen, told⟩
    cases seen with
    | superseded other =>
        cases told
        exact isSeen
    | blankLine => cases told
    | rejected => cases told
    | submitted => cases told
    | result => cases told

theorem Made.text_eq {front back : List String} {text : String} {submission : Submission}
    (made : Made (front ++ text :: back) submission)
    (place : submission.id = front.length + 1)
    : submission.formula.text = text := by
  obtain ⟨index, isId, isText, _⟩ := made
  obtain rfl : index = front.length := by omega
  rw [List.getElem?_append_right (Nat.le_refl _), Nat.sub_self, List.getElem?_cons_zero] at isText
  exact (Option.some.inj isText).symm

/-- A submission is shown when no line was taken before its answer, and dropped otherwise. -/
theorem Follows.shown_iff {script front between tail session shown} {text : String}
    {outcome : Outcome} (follows : Follows script session shown) (each : AnswersEach script)
    (same
      : script
        = front ++ .line text
          :: (between ++ .answer ((acceptedLines front).length + 1) outcome :: tail))
    (accepted : isWellFormed text = true)
    : ((∃ submission : Submission,
          submission.label = ((acceptedLines front).length + 1, text)
          ∧ .result submission outcome ∈ shown)
        ↔ acceptedLines between = [])
      ∧ (.superseded ((acceptedLines front).length + 1) ∈ shown
        ↔ acceptedLines between ≠ []) := by
  have before
      : acceptedLines (front ++ .line text :: between)
        = acceptedLines front ++ text :: acceptedLines between := by
    rw [acceptedLines_append, acceptedLines, if_pos accepted]
  have isLatest
      : (acceptedLines front).length + 1
          = (acceptedLines (front ++ .line text :: between)).length
        ↔ acceptedLines between = [] := by
    rw [before, List.length_append, List.length_cons, ← List.length_eq_zero_iff]
    omega
  rw [← List.cons_append, ← List.append_assoc] at same
  have lines
      : acceptedLines script
        = acceptedLines front ++ text :: (acceptedLines between ++ acceptedLines tail) := by
    rw [same, acceptedLines_append, before, acceptedLines, List.append_assoc, List.cons_append]
  have verdict (told : Option Outcome)
      : ((acceptedLines front).length + 1, told) ∈ verdicts 0 script
        ↔ told = if acceptedLines between = [] then some outcome else none := by
    simp only [each.verdict_iff same, isLatest]
  constructor
  · constructor
    · rintro ⟨submission, label, member⟩
      have told := (follows.result_iff.mp member).2
      rw [show submission.id = _ from congrArg Prod.fst label, verdict] at told
      by_contra later
      rw [if_neg later] at told
      cases told
    · intro none
      have within : (acceptedLines front).length + 1 ≤ (acceptedLines script).length := by
        rw [lines, List.length_append, List.length_cons]
        omega
      obtain ⟨submission, made, isId⟩ := exists_made (Nat.succ_pos _) within
      have isText := (lines ▸ made).text_eq isId
      refine ⟨submission, Prod.ext isId isText, follows.result_iff.mpr ⟨made, ?_⟩⟩
      rw [isId, verdict, if_pos none]
  · rw [follows.superseded_iff, verdict]
    by_cases none : acceptedLines between = []
    · simp [none]
    · simp [none]

/-- The latest submission is shown and kept. -/
theorem Follows.exists_latest {script session shown} (follows : Follows script session shown)
    (each : AnswersEach script) (someLine : acceptedLines script ≠ [])
    : ∃ submission outcome,
        Made (acceptedLines script) submission
        ∧ submission.id = (acceptedLines script).length
        ∧ .answer (acceptedLines script).length outcome ∈ script
        ∧ .result submission outcome ∈ shown
        ∧ session.tracker.latest = some (submission.answeredBy outcome) := by
  have positive := List.length_pos_iff.mpr someLine
  have answered := each.mem_iff.mpr ⟨positive, Nat.le_refl _⟩
  obtain ⟨front, outcome, rest, same⟩ := mem_answeredIds_iff.mp answered
  obtain ⟨submission, made, isId⟩ := exists_made positive (Nat.le_refl _)
  -- All lines were taken before the answer, for their number is the last one.
  have isLatest : (acceptedLines script).length = (acceptedLines front).length := by
    have made := each.later same
    have lines := congrArg (fun steps => (acceptedLines steps).length) same
    simp only [acceptedLines_append, List.length_append] at lines
    omega
  have told := (each.verdict_iff same).mpr (if_pos isLatest).symm
  have isShown := follows.result_iff.mpr ⟨made, isId.symm ▸ told⟩
  have isAnswer := List.mem_append_right front
    (List.mem_cons_self (a := Step.answer (acceptedLines script).length outcome) (l := rest))
  rw [← same] at isAnswer
  exact ⟨submission, outcome, made, isId, isAnswer, isShown, follows.display isShown isId⟩

/-- The session after a script shows only the freshest result. -/
structure ShowsFreshest (script : List Step) (final : Session) (shown : List Shown) : Prop where
  /-- The lines that are formulas get the numbers 1, 2, 3 and so on. -/
  numbered
    : (shown.filterMap submissionOf?).map Submission.label
      = (List.range' 1 (acceptedLines script).length).zip (acceptedLines script)
  /-- Other lines leave the session as it was. -/
  ignored
    : ∀ {front text rest},
        script = front ++ .line text :: rest
        → Text.isBlankString text = true ∨ isWellFormed text = false
        → (start.run (front ++ [.line text])).1 = (start.run front).1
  /-- Each submission is either shown or dropped, and that once. -/
  once
    : ((shown.filterMap Shown.verdict?).map Prod.fst).Perm
        (List.range' 1 (acceptedLines script).length)
  /-- It is shown with its own outcome when no line was taken before its answer, and dropped
  otherwise.
  -/
  fresh
    : ∀ {front text rest},
        script = front ++ .line text :: rest
        → isWellFormed text = true
        → ∃ between outcome tail,
            rest = between ++ .answer ((acceptedLines front).length + 1) outcome :: tail
            ∧ ((∃ submission : Submission,
                  submission.label = ((acceptedLines front).length + 1, text)
                  ∧ .result submission outcome ∈ shown)
                ↔ acceptedLines between = [])
            ∧ (.superseded ((acceptedLines front).length + 1) ∈ shown
                ↔ acceptedLines between ≠ [])
  /-- The latest submission is shown, and it stays on display. -/
  latest
    : ∀ {text},
        (acceptedLines script).getLast? = some text
        → ∃ (submission : Submission) (outcome : Outcome),
            submission.label = ((acceptedLines script).length, text)
            ∧ .answer (acceptedLines script).length outcome ∈ script
            ∧ .result submission outcome ∈ shown
            ∧ final.tracker.latest = some (submission.answeredBy outcome)
  /-- Without a submission nothing is on display. -/
  nothing : acceptedLines script = [] → final.tracker.latest = none
  /-- Where these are the steps, the program prints what is shown. -/
  output
    : ∀ {around rule endpoint happenings} (course : Course),
        stepsOf around rule endpoint start happenings = script
        → (follow around rule endpoint course start happenings).output
          = course.output ++ printed around.paint shown

/-- A session that answers each submission once shows only the freshest result. -/
theorem AnswersEach.showsFreshest {script : List Step} (each : AnswersEach script)
    {final : Session} {shown : List Shown} (ran : start.run script = (final, shown))
    : ShowsFreshest script final shown := by
  have follows : Follows script final shown := by
    have follows := each.follows
    rwa [ran] at follows
  constructor
  · exact follows.labels
  · intro front text rest same notTaken
    have rejected : isWellFormed text = false := by
      rcases notTaken with blank | rejected
      · exact isWellFormed_of_blank blank
      · exact rejected
    obtain ⟨seen, unchanged, _⟩ := typed_of_rejected (start.run front).1 rejected
    simp only [run_append, run, step, unchanged]
  · rw [follows.settled, map_fst_verdicts]
    exact each.once
  · intro front text rest same accepted
    obtain ⟨between, outcome, tail, rfl⟩ := each.exists_answer same accepted
    exact ⟨between, outcome, tail, rfl, follows.shown_iff each same accepted⟩
  · intro text isLast
    obtain ⟨front, same⟩ := List.getLast?_eq_some_iff.mp isLast
    have someLine : acceptedLines script ≠ [] := by simp [same]
    obtain ⟨submission, outcome, made, isId, isAnswer, isShown, isKept⟩ :=
      follows.exists_latest each someLine
    have place : submission.id = front.length + 1 := by simp [isId, same]
    have isText := (same ▸ made).text_eq place
    exact ⟨submission, outcome, Prod.ext isId isText, isAnswer, isShown, isKept⟩
  · exact follows.nothing
  · intro around rule endpoint happenings course isScript
    rw [Program.output_follow, isScript, ran]

/-- Two submissions with a blank line between them, answered in the other order. -/
def crossing : List Step :=
  [.line "a", .line " ", .line "b", .answer 2 (.satisfiable []), .answer 1 (.error "late")]

/-- The answers may cross: the second submission is the one on display. -/
theorem AnswersEach.showsFreshest_crossing
    : AnswersEach crossing
      ∧ ShowsFreshest crossing (start.run crossing).1 (start.run crossing).2 := by
  have first : isWellFormed "a" = true := isWellFormed_of_isAtomName ⟨'a', [], rfl, rfl, rfl⟩
  have blank : isWellFormed " " = false := isWellFormed_of_blank rfl
  have second : isWellFormed "b" = true := isWellFormed_of_isAtomName ⟨'b', [], rfl, rfl, rfl⟩
  have each : AnswersEach crossing := by
    constructor
    · simp only [crossing, acceptedLines, answeredIds, first, blank, second]
      decide
    · intro front id outcome rest same
      rcases front with _ | ⟨_, _ | ⟨_, _ | ⟨_, _ | ⟨_, _ | ⟨_, front⟩⟩⟩⟩⟩
      all_goals
        simp only [crossing, List.nil_append, List.cons_append, List.cons.injEq] at same
      · cases same.1
      · cases same.2.1
      · cases same.2.2.1
      · obtain ⟨rfl, rfl, rfl, sameAnswer, _⟩ := same
        cases sameAnswer
        simp [acceptedLines, first, blank, second]
      · obtain ⟨rfl, rfl, rfl, rfl, sameAnswer, _⟩ := same
        cases sameAnswer
        simp [acceptedLines, first, blank, second]
      · simp at same
  exact ⟨each, each.showsFreshest rfl⟩

end Session

end SatClient
