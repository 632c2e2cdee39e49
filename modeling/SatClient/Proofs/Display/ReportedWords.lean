import SatClient.Display.Report

/-! What a saved report says the solver answered. It is meant to be the solver's own text, and it
is wherever that text is not empty. An empty assignment is an answer too, but its report says that
there was none, or shows the error that came with it.
-/

namespace SatClient

-----------------------------------------------------------------------------------------
-- The words that are meant
-----------------------------------------------------------------------------------------

/-- The words that a report is meant to hold: the assignment string as it is, the error where
there is no assignment, and a sentence in their place where there is neither.
-/
def Response.ownWords : Response → String
  | ⟨some assignment, _⟩ => assignment
  | ⟨none, some error⟩ => error
  | ⟨none, none⟩ => "Solver returned neither an assignment nor an error"

/-- A report in which the answer is told by the given words. -/
def reportWith (formula : Formula) (words : String) (time : Timestamp) : String :=
  "Formula: " ++ formula.text ++ "\nResult: " ++ words ++ "\nTimestamp: " ++ time.text ++ "\n"

/-- Reports on the same formula and time differ where their words do. -/
theorem reportWith_inj {formula : Formula} {time : Timestamp} {first second : String}
    : reportWith formula first time = reportWith formula second time ↔ first = second := by
  refine ⟨fun same => ?_, congrArg (reportWith formula · time)⟩
  have characters := congrArg String.toList same
  simp only [reportWith, String.toList_append, List.append_cancel_right_eq,
    List.append_cancel_left_eq] at characters
  exact String.toList_inj.mp characters

-----------------------------------------------------------------------------------------
-- The words that are shown
-----------------------------------------------------------------------------------------

/-- A report never leaves the answer blank. -/
theorem Response.words_ne_empty (response : Response) : response.words ≠ "" := by
  rw [words]
  split
  next text found => simpa using List.find?_some found
  next => decide

theorem Response.words_of_ownWords_ne_empty {response : Response} (some : response.ownWords ≠ "")
    : response.words = response.ownWords := by
  obtain ⟨_ | assignment, _ | error⟩ := response <;> simp_all [words, ownWords, Outcome.noAnswer]

theorem Response.words_eq_ownWords_iff (response : Response)
    : response.words = response.ownWords ↔ response.ownWords ≠ "" :=
  ⟨fun same => same ▸ response.words_ne_empty, words_of_ownWords_ne_empty⟩

theorem Response.ownWords_eq_empty_iff (response : Response)
    : response.ownWords = ""
      ↔ response.assignment = some "" ∨ response.assignment = none ∧ response.error = some "" := by
  obtain ⟨_ | assignment, _ | error⟩ := response <;> simp [ownWords]

/-- An answer without an error is shown as none when its assignment is missing or empty. The last
case is that the assignment consists of the very sentence for that.
-/
theorem Response.words_eq_noAnswer_iff {assignment : Option String}
    : words ⟨assignment, none⟩ = Outcome.noAnswer
      ↔ assignment = none ∨ assignment = some "" ∨ assignment = some Outcome.noAnswer := by
  cases assignment with
  | none => simp [words]
  | some text =>
      by_cases empty : text = ""
      · simp [words, empty]
      · simp [words, empty]

/-- An answer is taken for a verdict when it has an assignment and no error. -/
theorem Outcome.message?_ofResponse_eq_none_iff (rule : UnsatRule) (response : Response)
    : (ofResponse rule response).message? = none
      ↔ response.error = none ∧ response.assignment ≠ none := by
  obtain ⟨_ | assignment, _ | error⟩ := response
  · simp [ofResponse, message?]
  · simp [ofResponse, message?]
  · by_cases judged : isUnsatisfiable rule assignment = true <;> simp [ofResponse, message?, judged]
  · simp [ofResponse, message?]

-----------------------------------------------------------------------------------------
-- The report
-----------------------------------------------------------------------------------------

/-- A report tells the answer in the solver's own words except where these are empty: for an empty
assignment, and for an empty error without an assignment. So the report on a verdict claims that
there was no answer exactly when the assignment is empty, or is that claim itself.
-/
theorem reportContent_eq_ownWords_iff (formula : Formula) (response : Response) (time : Timestamp)
    : (reportContent formula response time = reportWith formula response.ownWords time
        ↔ ¬ (response.assignment = some ""
          ∨ response.assignment = none ∧ response.error = some ""))
      ∧ ∀ rule,
          (Outcome.ofResponse rule response).message? = none
            ∧ reportContent formula response time = reportWith formula Outcome.noAnswer time
          ↔ response.error = none
            ∧ (response.assignment = some "" ∨ response.assignment = some Outcome.noAnswer) := by
  have content : reportContent formula response time = reportWith formula response.words time :=
    rfl
  rw [content]
  constructor
  · rw [reportWith_inj, response.words_eq_ownWords_iff, ← response.ownWords_eq_empty_iff]
  · intro rule
    rw [reportWith_inj, Outcome.message?_ofResponse_eq_none_iff]
    obtain ⟨assignment, _ | error⟩ := response
    · rw [Response.words_eq_noAnswer_iff]
      cases assignment <;> simp
    · simp

/-- An empty assignment satisfies the formula, but the report says that there was no answer. -/
theorem reportContent_ne_ownWords
    : Outcome.ofResponse .sentinel ⟨some "", none⟩ = .satisfiable []
      ∧ reportContent ⟨"a", by decide⟩ ⟨some "", none⟩ ⟨0⟩
        = "Formula: a\nResult: Solver returned neither an assignment nor an error\n"
          ++ "Timestamp: 1970-01-01T00:00:00.000Z\n"
      ∧ reportWith ⟨"a", by decide⟩ (Response.ownWords ⟨some "", none⟩) ⟨0⟩
        = "Formula: a\nResult: \nTimestamp: 1970-01-01T00:00:00.000Z\n" := by
  decide

end SatClient
