import SatClient.Program.Interactive
import SatClient.Program.Solve
import SatClient.Proofs.Session.Freshness
import SatClient.Proofs.Solver.Posting

/-! What the program sends while a command runs. Only asking sends something; all else that a course
goes through leaves that as it is. A formula on the command line is sent if the guard lets it pass,
and of the lines that are typed those are sent that are formulas.
-/

namespace SatClient

open Http (Behaviour Traced maxRedirects)
open Program

-----------------------------------------------------------------------------------------
-- What was sent
-----------------------------------------------------------------------------------------

namespace Course

/-- Some texts were sent to an endpoint, each in a request of its own, and nothing else was; servers
got what those requests lead to.
-/
structure Sends (endpoint : Endpoint) (behaviour : Behaviour) (texts : List String)
    (course : Course) : Prop where
  sent : course.sent = texts.map fun text => endpoint.request (.string text)
  received
    : course.received
      = texts.flatMap fun text => behaviour.gets maxRedirects (endpoint.request (.string text))

variable {endpoint : Endpoint} {behaviour : Behaviour} {texts : List String} {course : Course}

theorem sends_start (files : Files.Tree) : (start files).Sends endpoint behaviour [] := ⟨rfl, rfl⟩

theorem Sends.print (sends : course.Sends endpoint behaviour texts) (line : String)
    : (course.print line).Sends endpoint behaviour texts :=
  ⟨sends.sent, sends.received⟩

theorem Sends.printIf (sends : course.Sends endpoint behaviour texts) (condition : Bool)
    (lines : List String)
    : (course.printIf condition lines).Sends endpoint behaviour texts := by
  cases condition with
  | false => exact sends
  | true =>
      change (lines.foldl Course.print course).Sends endpoint behaviour texts
      induction lines generalizing course with
      | nil => exact sends
      | cons line rest ih => exact ih (sends.print line)

theorem Sends.keep (sends : course.Sends endpoint behaviour texts) (files : Files.Tree)
    : (course.keep files).Sends endpoint behaviour texts :=
  ⟨sends.sent, sends.received⟩

theorem Sends.warn (sends : course.Sends endpoint behaviour texts) (line : String)
    : (course.warn line).Sends endpoint behaviour texts :=
  ⟨sends.sent, sends.received⟩

theorem Sends.fail (sends : course.Sends endpoint behaviour texts) (explanation : Explanation)
    : (course.fail explanation).Sends endpoint behaviour texts :=
  ⟨sends.sent, sends.received⟩

theorem Sends.log (sends : course.Sends endpoint behaviour texts) (trail : Log.Trail)
    : (course.log trail).Sends endpoint behaviour texts :=
  ⟨sends.sent, sends.received⟩

/-- What sends one text adds it to those that were sent. -/
theorem Sends.trace {α : Type} {traced : Traced α} {text : String}
    (sends : course.Sends endpoint behaviour texts)
    (once : endpoint.SendsOnce behaviour (.string text) traced)
    : (course.trace traced).Sends endpoint behaviour (texts ++ [text]) := by
  constructor
  · change course.sent ++ traced.sent = _
    rw [sends.sent, once.sent, List.map_append, List.map_singleton]
  · change course.received ++ traced.received = _
    rw [sends.received, once.received, List.flatMap_append, List.flatMap_singleton]

theorem Sends.trace_nothing {α : Type} {traced : Traced α}
    (sends : course.Sends endpoint behaviour texts) (nothing : traced.SendsNothing)
    : (course.trace traced).Sends endpoint behaviour texts := by
  constructor
  · change course.sent ++ traced.sent = _
    rw [nothing.sent, List.append_nil, sends.sent]
  · change course.received ++ traced.received = _
    rw [nothing.received, List.append_nil, sends.received]

theorem Sends.unique {others : List String} (sends : course.Sends endpoint behaviour texts)
    (also : course.Sends endpoint behaviour others)
    : texts.length = others.length := by
  have same := congrArg List.length (sends.sent.symm.trans also.sent)
  rwa [List.length_map, List.length_map] at same

end Course

-----------------------------------------------------------------------------------------
-- The formula of a command line
-----------------------------------------------------------------------------------------

namespace Program

section Solve

variable {around : Surroundings} {settings : Settings} {endpoint : Endpoint}
  {address : Http.Address} {course : Course} {texts : List String} {options : SolveOptions}

theorem sends_save (sends : course.Sends endpoint around.behaviour texts) (formula : Formula)
    (response : Response)
    : (save course around settings formula response).Sends endpoint around.behaviour texts := by
  unfold save
  dsimp only
  split
  · exact (sends.keep _).fail _
  · exact (sends.keep _).printIf _ _

theorem sends_ask (sends : course.Sends endpoint around.behaviour texts)
    (somewhere : endpoint.address? = some address) (formula : Formula) (checked : Option Checked)
    : (ask course around settings options endpoint formula checked).Sends endpoint around.behaviour
        (texts ++ [formula.text]) := by
  have asked :=
    ((sends.printIf options.isVerbose (configurationLines settings endpoint)).printIf
      (settings.format = .text) [around.paint.info "🧮 Solving..."]).trace
        ((endpoint.asks_solve around.behaviour formula).once somewhere)
  unfold ask
  dsimp only
  split
  · exact sends_save ((asked.print _).printIf _ _) _ _
  · exact (asked.print _).printIf _ _

/-- Whether the guard lets a text pass: it is a formula, or it is not blank and the check is
skipped.
-/
def passes (skipsCheck : Bool) (text : String) : Bool :=
  isWellFormed text || (skipsCheck && !Text.isBlankString text)

theorem guard_of_passes (formula : Formula) {skipsCheck : Bool}
    (passed : passes skipsCheck formula.text = true)
    : ∃ checked trail, guard formula skipsCheck = .ok (checked, trail) := by
  unfold guard
  split
  · exact ⟨_, _, rfl⟩
  next fault failed =>
    have rejected : isWellFormed formula.text = false := exists_fault_iff.mp ⟨fault, failed⟩
    rw [passes, rejected, Bool.false_or, Bool.and_eq_true] at passed
    rw [if_pos passed.1]
    exact ⟨_, _, rfl⟩

theorem guard_of_not_passes {formula : Formula} {skipsCheck : Bool}
    (refused : passes skipsCheck formula.text = false)
    : ∃ fault, guard formula skipsCheck = .error fault := by
  rw [passes, Bool.or_eq_false_iff, formula.not_blank, Bool.not_false, Bool.and_true] at refused
  unfold guard
  split
  next checked accepted =>
    have passed : isWellFormed formula.text = true := exists_checked_iff.mp ⟨checked, accepted⟩
    rw [refused.1] at passed
    cases passed
  · rw [refused.2]
    exact ⟨_, rfl⟩

theorem not_blank_of_passes {skipsCheck : Bool} {text : String}
    (passed : passes skipsCheck text = true)
    : Text.isBlankString text = false := by
  rcases Bool.or_eq_true_iff.mp passed with accepted | skipped
  · exact not_blank_of_isWellFormed accepted
  · simpa using (Bool.and_eq_true_iff.mp skipped).2

/-- A text that passes is sent once. -/
theorem sends_solveWith (sends : course.Sends endpoint around.behaviour [])
    (usable : settings.endpoint = .ok endpoint) (somewhere : endpoint.address? = some address)
    {text : String} (passed : passes options.skipsCheck text = true)
    : (solveWith course around settings options text).Sends endpoint around.behaviour [text] := by
  have notBlank := not_blank_of_passes passed
  obtain ⟨checked, trail, guarded⟩ := guard_of_passes ⟨text, notBlank⟩ passed
  unfold solveWith
  simp only [Formula.ofString?_of_not_blank notBlank, guarded, usable]
  exact sends_ask (sends.log trail) somewhere ⟨text, notBlank⟩ checked

/-- A text that does not pass is not sent, and that is a failure. -/
theorem solveWith_of_not_passes (settings : Settings)
    (sends : course.Sends endpoint around.behaviour []) {text : String}
    (refused : passes options.skipsCheck text = false)
    : (solveWith course around settings options text).Sends endpoint around.behaviour []
      ∧ (solveWith course around settings options text).exit = 1 := by
  unfold solveWith
  split
  · exact ⟨sends.fail _, rfl⟩
  next formula found =>
    obtain rfl := Formula.text_of_ofString? found
    obtain ⟨fault, guarded⟩ := guard_of_not_passes refused
    rw [guarded]
    exact ⟨(sends.warn _).fail _, rfl⟩

end Solve

-----------------------------------------------------------------------------------------
-- Typed lines
-----------------------------------------------------------------------------------------

/-- The line that is typed when something happens. -/
def Happening.line? : Happening → Option String
  | .line text => some text
  | .answer _ _ => none

/-- The formulas among the lines that are typed, in order. -/
def formulasOf (happenings : List Happening) : List String :=
  (happenings.filterMap Happening.line?).filter (isWellFormed ·)

section Interactive

variable {around : Surroundings} {endpoint : Endpoint} {address : Http.Address} {course : Course}
  {texts : List String}

theorem sends_takeLine (sends : course.Sends endpoint around.behaviour texts)
    (somewhere : endpoint.address? = some address) (session : Session) (text : String)
    : (takeLine around endpoint course session text).1.Sends endpoint around.behaviour
        (texts ++ formulasOf [.line text]) := by
  cases accepted : isWellFormed text with
  | false =>
      obtain ⟨shown, same, noSubmission, -⟩ := session.typed_of_rejected accepted
      simp only [takeLine, same, noSubmission]
      simpa [formulasOf, Happening.line?, accepted] using sends.print (shown.text around.paint)
  | true =>
      obtain ⟨submission, -, isText, -, same⟩ := session.typed_of_accepted accepted
      simp only [takeLine, same, submissionOf?]
      simp only [formulasOf, Happening.line?, accepted, List.filterMap_cons, List.filterMap_nil,
        List.filter_cons, if_true, List.filter_nil]
      rw [← isText]
      exact (sends.print _).trace
        (((endpoint.asks_post around.behaviour _).map _).once somewhere)

theorem sends_takeAnswer (sends : course.Sends endpoint around.behaviour texts) (rule : UnsatRule)
    (session : Session) (id : Nat) (behaviour : Behaviour)
    : (takeAnswer around rule endpoint course session id behaviour).1.Sends endpoint
        around.behaviour texts := by
  unfold takeAnswer
  split
  · exact sends
  · exact ((sends.trace_nothing (endpoint.sendsNothing_settle _)).log _).print _

theorem formulasOf_cons (happening : Happening) (rest : List Happening)
    : formulasOf (happening :: rest) = formulasOf [happening] ++ formulasOf rest := by
  rw [formulasOf, ← List.singleton_append, List.filterMap_append, List.filter_append]
  rfl

/-- Whatever happens, the formulas that are typed are sent, by induction on what happens. -/
theorem sends_follow (sends : course.Sends endpoint around.behaviour texts)
    (somewhere : endpoint.address? = some address) (rule : UnsatRule) (session : Session)
    (happenings : List Happening)
    : (follow around rule endpoint course session happenings).Sends endpoint around.behaviour
        (texts ++ formulasOf happenings) := by
  induction happenings generalizing course session texts with
  | nil => simpa [formulasOf, follow] using sends
  | cons happening rest ih =>
      cases happening with
      | line text =>
          rw [formulasOf_cons, ← List.append_assoc]
          exact ih (sends_takeLine sends somewhere session text) _
      | answer id behaviour => exact ih (sends_takeAnswer sends rule session id behaviour) _

end Interactive

end Program

end SatClient
