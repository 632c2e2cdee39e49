import SatClient.Program.Run
import SatClient.Proofs.Bind
import SatClient.Proofs.CommandLine.Operand
import SatClient.Proofs.Forwarder.Unchanged
import SatClient.Proofs.Program.Sending
import SatClient.Proofs.Text.Splitting

/-! Every way to put a text in is guarded alike. The command that checks it, the one that asks the
solver and the lines of a session apply the same check, on their own and in orders of their own, and
come to the same verdict.
-/

namespace SatClient.Program

-----------------------------------------------------------------------------------------
-- Typed input
-----------------------------------------------------------------------------------------

/-- Pieces before the last one are lines. -/
theorem linesOf_append {back : List (List Char)} (some : back ≠ []) (front : List (List Char))
    : linesOf (front ++ back) = front.map withoutReturn ++ linesOf back := by
  induction front with
  | nil => rfl
  | cons line rest ih =>
      cases more : rest ++ back with
      | nil => exact absurd (List.append_eq_nil_iff.mp more).2 some
      | cons next others =>
          rw [more] at ih
          simp only [List.cons_append, List.map_cons, more, linesOf, ih]

/-- An input so far consists of whole lines. -/
def IsWhole (input : List Char) : Prop := input = [] ∨ ∃ lines, input = lines ++ ['\n']

/-- Whatever follows whole lines is read on its own. -/
theorem linesOf_splitOn_append {front : List Char} (whole : IsWhole front) (back : List Char)
    : linesOf ((front ++ back).splitOn '\n')
      = linesOf (front.splitOn '\n') ++ linesOf (back.splitOn '\n') := by
  rcases whole with rfl | ⟨lines, rfl⟩
  · rfl
  · rw [List.append_assoc, List.singleton_append, List.splitOn_append_cons_self,
      List.splitOn_append_cons_self, linesOf_append (List.splitOn_ne_nil '\n' back),
      linesOf_append (List.splitOn_ne_nil '\n' [])]
    simp [linesOf]

/-- A line is read as it was typed, between whole lines and whatever comes after its break. -/
theorem inputLines_line {front text : String} (whole : IsWhole front.toList)
    (noBreak : '\n' ∉ text.toList) (noReturn : text.toList.getLast? ≠ some '\r') (back : String)
    : inputLines (front ++ text ++ "\n" ++ back)
      = inputLines front ++ text :: inputLines back := by
  have same : (front ++ text ++ "\n" ++ back).toList
      = front.toList ++ (text.toList ++ '\n' :: back.toList) := by
    simp
  have typed : withoutReturn text.toList = text.toList := by
    rw [withoutReturn, if_neg noReturn]
  simp only [inputLines, same]
  rw [linesOf_splitOn_append whole, List.splitOn_append_cons_self,
    List.splitOn_eq_singleton noBreak, linesOf_append (List.splitOn_ne_nil '\n' back.toList)]
  simp [typed]

-----------------------------------------------------------------------------------------
-- The guard
-----------------------------------------------------------------------------------------

theorem parse_requestBody_string (text : String)
    : Json.parse (requestBody (.string text)) = .ok (.object [("prop", .string text)]) :=
  have shallow : 0 < Json.maxNesting := by decide
  parse_requestBody (fun _ isIn => by cases isIn) shallow rfl

theorem formulasOf_append (before after : List Happening)
    : formulasOf (before ++ after) = formulasOf before ++ formulasOf after := by
  simp [formulasOf]

theorem exit_check_eq_zero_iff (around : Surroundings) (text : String)
    : (check around text).exit = 0 ↔ isWellFormed text = true := by
  rw [← exists_checked_iff]
  cases found : checkText text with
  | ok checked => simp [check, found, Course.print, Course.start]
  | error fault => simp [check, found, Course.fail]

theorem sent_check (around : Surroundings) (text : String)
    : (check around text).sent = [] ∧ (check around text).received = [] := by
  unfold check
  split
  · exact ⟨rfl, rfl⟩
  · exact ⟨rfl, rfl⟩

/-- The words of a command line are carried out, and what they leave behind is that of a course. -/
def RunsTo (around : Surroundings) (outside : Outside) (clock : String) (words : List String)
    (course : Course)
    : Prop :=
  ∃ level, run around outside clock words = .ok (finish around clock level course [])

theorem runsTo_of_carryOut {around : Surroundings} {outside : Outside} {words : List String}
    {invocation : CommandLine.Invocation} {course : Course} (clock : String)
    (asked : CommandLine.read words = .ok invocation)
    (carried : carryOut around outside invocation = .ok (course, []))
    : RunsTo around outside clock words course := by
  refine ⟨logLevel invocation, ?_⟩
  simp only [run, asked, carried]
  rfl

/-- What a text comes to, however it is put in. -/
structure SharesGuard (around : Surroundings) (outside : Outside) (clock text : String)
    : Prop where
  /-- A formula is never taken for a flag. -/
  noFlag : isWellFormed text = true → text.toList.head? ≠ some '-'
  /-- A text that does not start with a hyphen is what its command is applied to. -/
  operand
    : text.toList.head? ≠ some '-'
      → CommandLine.read ["check", text] = .ok (.check text)
        ∧ CommandLine.read ["solve", text]
          = .ok (.solve text CommandLine.standardConfig .none false false false)
        ∧ CommandLine.read ["solve", text, "--skip-check"]
          = .ok (.solve text CommandLine.standardConfig .none true false false)
  /-- The check succeeds on formulas only, and it asks nobody. -/
  check
    : ∀ {words},
        CommandLine.read words = .ok (.check text)
        → ∃ course,
            RunsTo around outside clock words course
            ∧ (course.exit = 0 ↔ isWellFormed text = true)
            ∧ course.sent = []
            ∧ course.received = []
  /-- A formula is sent once, and any other text is not sent but refused. -/
  solve
    : ∀ {words config overrides saves isVerbose settings endpoint address},
        CommandLine.read words = .ok (.solve text config overrides false saves isVerbose)
        → Settings.gather around config overrides = .ok settings
        → settings.endpoint = .ok endpoint
        → endpoint.address? = some address
        → ∃ course,
            RunsTo around outside clock words course
            ∧ (course.Sends endpoint around.behaviour [text] ↔ isWellFormed text = true)
            ∧ (isWellFormed text = false
              → course.Sends endpoint around.behaviour [] ∧ course.exit ≠ 0)
  /-- Without the check every text is sent once that is not blank. -/
  skipCheck
    : ∀ {words config overrides saves isVerbose settings endpoint address},
        CommandLine.read words = .ok (.solve text config overrides true saves isVerbose)
        → Settings.gather around config overrides = .ok settings
        → settings.endpoint = .ok endpoint
        → endpoint.address? = some address
        → ∃ course,
            RunsTo around outside clock words course
            ∧ (course.Sends endpoint around.behaviour [text] ↔ Text.isBlankString text = false)
            ∧ (Text.isBlankString text = true
              → course.Sends endpoint around.behaviour [] ∧ course.exit ≠ 0)
  /-- A text without breaks is read as it was typed. -/
  line
    : '\n' ∉ text.toList
      → text.toList.getLast? ≠ some '\r'
      → ∀ {front : String},
          IsWhole front.toList
          → ∀ back : String,
              inputLines (front ++ text ++ "\n" ++ back)
              = inputLines front ++ text :: inputLines back
  /-- A typed line is submitted if it is a formula, whatever went before. -/
  submitted
    : ∀ session : Session,
        (∃ submission : Submission,
          (session.typed text).2 = .submitted submission ∧ submission.formula.text = text)
        ↔ isWellFormed text = true
  /-- In its place among the other lines it is sent once if it is a formula, and not otherwise. -/
  interactive
    : ∀ {words config overrides settings endpoint address before after},
        CommandLine.read words = .ok (.interactive config overrides)
        → Settings.gather around config overrides = .ok settings
        → settings.endpoint = .ok endpoint
        → endpoint.address? = some address
        → outside.happenings = before ++ .line text :: after
        → ∃ course,
            RunsTo around outside clock words course
            ∧ course.Sends endpoint around.behaviour
                (formulasOf before ++ (if isWellFormed text then [text] else [])
                  ++ formulasOf after)
  /-- The body of every request has the text as it stands. -/
  verbatim
    : ∀ endpoint : Endpoint,
        Json.parse (endpoint.request (.string text)).body = .ok (.object [("prop", .string text)])

theorem sends_singleton_iff {around : Surroundings} {endpoint : Endpoint} {course : Course}
    {text : String} {passed : Bool}
    (sent : passed = true → course.Sends endpoint around.behaviour [text])
    (refused : passed = false → course.Sends endpoint around.behaviour [])
    : course.Sends endpoint around.behaviour [text] ↔ passed = true := by
  constructor
  · intro sends
    by_contra notPassed
    have none := sends.unique (refused (Bool.eq_false_iff.mpr notPassed))
    cases none
  · exact sent

section Commands

variable {around : Surroundings} {config : Files.Path} {overrides : Overrides}
  {settings : Settings} {endpoint : Endpoint} {address : Http.Address}

theorem sends_begin (around : Surroundings) (config : Files.Path) (endpoint : Endpoint)
    : ((Course.start around.files).log (Settings.readTrail around.files config)).Sends endpoint
        around.behaviour [] :=
  (Course.sends_start around.files).log _

/-- Under settings that lead to an endpoint the guard alone decides whether a text is sent. -/
theorem sends_solve_iff (gathered : Settings.gather around config overrides = .ok settings)
    (usable : settings.endpoint = .ok endpoint) (somewhere : endpoint.address? = some address)
    (options : SolveOptions) (text : String)
    : ((solve around config overrides options text).Sends endpoint around.behaviour [text]
        ↔ passes options.skipsCheck text = true)
      ∧ (passes options.skipsCheck text = false
        → (solve around config overrides options text).Sends endpoint around.behaviour []
          ∧ (solve around config overrides options text).exit ≠ 0) := by
  have begin := sends_begin around config endpoint
  unfold solve
  rw [gathered]
  dsimp only
  have refused (notPassed : passes options.skipsCheck text = false) :=
    solveWith_of_not_passes settings begin notPassed
  refine ⟨sends_singleton_iff (sends_solveWith begin usable somewhere) fun notPassed => ?_, ?_⟩
  · exact (refused notPassed).1
  · intro notPassed
    refine ⟨(refused notPassed).1, ?_⟩
    rw [(refused notPassed).2]
    decide

theorem sends_interactive (gathered : Settings.gather around config overrides = .ok settings)
    (usable : settings.endpoint = .ok endpoint) (somewhere : endpoint.address? = some address)
    (happenings : List Happening)
    : (interactive around config overrides happenings).Sends endpoint around.behaviour
        (formulasOf happenings) := by
  have begin := sends_begin around config endpoint
  unfold interactive
  rw [gathered]
  dsimp only
  rw [usable]
  exact sends_follow (begin.print _) somewhere settings.rule .start happenings

end Commands

theorem passes_true (text : String) : passes true text = !Text.isBlankString text := by
  rw [passes, Bool.true_and]
  cases blank : Text.isBlankString text with
  | true => rw [isWellFormed_of_blank blank]; rfl
  | false => simp

/-- All ways to put a text in are guarded alike. -/
theorem sharesGuard (around : Surroundings) (outside : Outside) (clock text : String)
    : SharesGuard around outside clock text := by
  constructor
  · exact head?_ne_hyphen_of_isWellFormed
  · intro noHyphen
    exact ⟨CommandLine.read_check noHyphen, CommandLine.read_solve noHyphen,
      CommandLine.read_solve_skipCheck noHyphen⟩
  · intro words isCheck
    exact ⟨_, runsTo_of_carryOut clock isCheck rfl, exit_check_eq_zero_iff around text,
      sent_check around text⟩
  · intro words config overrides saves isVerbose settings endpoint address isSolve gathered usable
      somewhere
    have sends := sends_solve_iff gathered usable somewhere ⟨false, saves, isVerbose⟩ text
    exact ⟨_, runsTo_of_carryOut clock isSolve rfl, by simpa [passes] using sends⟩
  · intro words config overrides saves isVerbose settings endpoint address isSolve gathered usable
      somewhere
    have sends := sends_solve_iff gathered usable somewhere ⟨true, saves, isVerbose⟩ text
    exact ⟨_, runsTo_of_carryOut clock isSolve rfl, by simpa [passes_true] using sends⟩
  · intro noBreak noReturn front whole back
    exact inputLines_line whole noBreak noReturn back
  · intro session
    constructor
    · rintro ⟨submission, isSubmitted, -⟩
      by_contra rejected
      obtain ⟨shown, same, none, -⟩ := session.typed_of_rejected (Bool.eq_false_iff.mpr rejected)
      rw [same] at isSubmitted
      subst isSubmitted
      cases none
    · intro accepted
      obtain ⟨submission, -, isText, -, same⟩ := session.typed_of_accepted accepted
      exact ⟨submission, by rw [same], isText⟩
  · intro words config overrides settings endpoint address before after isInteractive gathered
      usable somewhere split
    have sends := sends_interactive gathered usable somewhere outside.happenings
    refine ⟨_, runsTo_of_carryOut clock isInteractive rfl, ?_⟩
    have here : formulasOf [.line text] = if isWellFormed text then [text] else [] := by
      cases accepted : isWellFormed text <;> simp [formulasOf, Happening.line?, accepted]
    rwa [split, formulasOf_append, formulasOf_cons, here, ← List.append_assoc, ← split] at sends
  · intro endpoint
    exact parse_requestBody_string text

/-- A program that finds a base URL in its environment, and nothing else. -/
def loopbackSurroundings : Surroundings where
  env := ⟨[("MARINA_API_URL", "http://[::1]")]⟩
  files := .empty
  link := .up
  solver := .closes
  time := ⟨0⟩
  delay := 0

/-- A formula on a command line is sent once, and a text that is none is not sent and fails. -/
theorem sharesGuard_loopback
    : (∃ course,
        RunsTo loopbackSurroundings ⟨[], ⟨[], ""⟩⟩ "" ["solve", "~(a)"] course
        ∧ course.sent
          = [⟨"POST", "/marina", some "application/json", requestBody (.string "~(a)")⟩])
      ∧ ∃ course,
          RunsTo loopbackSurroundings ⟨[], ⟨[], ""⟩⟩ "" ["solve", "~(a"] course
          ∧ course.sent = []
          ∧ course.exit ≠ 0 := by
  have shares := sharesGuard loopbackSurroundings ⟨[], ⟨[], ""⟩⟩ ""
  have gathered
      : Settings.gather loopbackSurroundings CommandLine.standardConfig .none
        = .ok { Settings.standard with baseUrl := "http://[::1]" } :=
    eq_ok_of_toOption (by decide +kernel)
  have usable
      : { Settings.standard with baseUrl := "http://[::1]" }.endpoint
        = .ok
            ⟨.http,
              ⟨⟨[], []⟩, .ipv6 ⟨[0, 0, 0, 0, 0, 0, 0, 1]⟩, none, ["marina".toList], none, none⟩,
              .inl rfl⟩ :=
    rfl
  constructor
  · obtain ⟨course, runs, sends, -⟩ :=
      (shares "~(a)").solve ((shares "~(a)").operand (by decide)).2.1 gathered usable
        (Endpoint.address?_of_takesRequests (by decide +kernel))
    exact ⟨course, runs, (sends.mpr (by decide +kernel)).sent⟩
  · obtain ⟨course, runs, -, refused⟩ :=
      (shares "~(a").solve ((shares "~(a").operand (by decide)).2.1 gathered usable
        (Endpoint.address?_of_takesRequests (by decide +kernel))
    obtain ⟨sends, fails⟩ := refused (by decide +kernel)
    exact ⟨course, runs, sends.sent, fails⟩

end SatClient.Program
