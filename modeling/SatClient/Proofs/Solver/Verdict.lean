import SatClient.Proofs.Bind
import SatClient.Proofs.Formula.Blank
import SatClient.Proofs.Solver.Posting
import SatClient.Solver.Question

/-! A verdict is only reported from a genuine answer of the solver. What a text comes to is told
here by the text, the base URL and what servers make of one request: nothing is sent for a text
that is no formula or without an address, and whatever goes wrong after that is an error with its
own sentence.
-/

namespace SatClient

open Http (Behaviour Request Traced)
open Utf8 (Bytes)

def Successful (status : Nat) : Prop := 200 ≤ status ∧ status < 300

/-- A genuine answer comes from an endpoint: a status that tells success, and a whole body that
reads as the response.
-/
def Answered (endpoint : Endpoint) (behaviour : Behaviour) (response : Response) : Prop :=
  ∃ status body,
    endpoint.Hears behaviour status body
    ∧ Successful status
    ∧ Response.decode body = .ok response

/-- What servers make of a request means to someone who asks at the endpoint. -/
inductive Tells (rule : UnsatRule) (endpoint : Endpoint) (behaviour : Behaviour) : Outcome → Prop
  | nowhere (nowhere : endpoint.address? = none)
    : Tells rule endpoint behaviour
        (.error
          ("Network error occurred: "
            ++ ("builder error for url (" ++ endpoint.bare.text ++ ")")))
  | silent {place last} (finds : endpoint.Finds behaviour place last) (silent : last.Silent)
    : Tells rule endpoint behaviour
        (.error
          ("Network error occurred: " ++ ("error sending request for url (" ++ place ++ ")")))
  | wandering {place} (wanders : endpoint.Wanders behaviour place)
    : Tells rule endpoint behaviour
        (.error
          ("Network error occurred: " ++ ("error following redirect for url (" ++ place ++ ")")))
  | refused {status}
    (names : endpoint.HearsPart behaviour status ∨ ∃ body, endpoint.Hears behaviour status body)
    (other : ¬ Successful status)
    : Tells rule endpoint behaviour (.error ("HTTP error! status: " ++ toString status))
  | brokenOff {status} (part : endpoint.HearsPart behaviour status)
    (successful : Successful status)
    : Tells rule endpoint behaviour
        (.error ("Network error occurred: " ++ "error decoding response body"))
  | malformed {status body fault} (hears : endpoint.Hears behaviour status body)
    (successful : Successful status) (unreadable : Response.decode body = .error fault)
    : Tells rule endpoint behaviour
        (.error ("Malformed response from solver: " ++ fault.message body))
  | inBand {response message} (answered : Answered endpoint behaviour response)
    (error : response.error = some message)
    : Tells rule endpoint behaviour (.error message)
  | nothing {response} (answered : Answered endpoint behaviour response)
    (noError : response.error = none) (noAssignment : response.assignment = none)
    : Tells rule endpoint behaviour
        (.error "Solver returned neither an assignment nor an error")
  | verdict {response} (answered : Answered endpoint behaviour response)
    (noError : response.error = none) (some : response.assignment ≠ none)
    : Tells rule endpoint behaviour (.ofResponse rule response)

-----------------------------------------------------------------------------------------
-- What comes back for one request
-----------------------------------------------------------------------------------------

theorem isSuccess_iff {status : Nat} : Http.isSuccess status = true ↔ Successful status := by
  simp [Http.isSuccess, Successful]

section Replies

variable {endpoint : Endpoint} {behaviour : Behaviour} (request : Request)

theorem Answered.readReply {response : Response} (answered : Answered endpoint behaviour response)
    : Endpoint.readReply (Http.send behaviour endpoint request).value = .ok response := by
  obtain ⟨status, body, hears, successful, read⟩ := answered
  rw [hears.send request]
  simp only [Endpoint.readReply, isSuccess_iff.mpr successful, Bool.not_true, Bool.false_eq_true,
    if_false, read]
  rfl

theorem readReply_of_hearsNothing {fault : Http.Fault}
    (nothing : endpoint.HearsNothing behaviour fault)
    : Endpoint.readReply (Http.send behaviour endpoint request).value
      = .error (.network fault) := by
  rw [nothing.send request]
  rfl

theorem readReply_of_refused {status : Nat}
    (names : endpoint.HearsPart behaviour status ∨ ∃ body, endpoint.Hears behaviour status body)
    (other : ¬ Successful status)
    : Endpoint.readReply (Http.send behaviour endpoint request).value
      = .error (.status status) := by
  have refused : Http.isSuccess status = false := by
    rw [← Bool.not_eq_true, isSuccess_iff]
    exact other
  rcases names with part | ⟨body, hears⟩
  · rw [part.send request]
    simp [Endpoint.readReply, refused]
  · rw [hears.send request]
    simp [Endpoint.readReply, refused]

theorem readReply_of_hearsPart {status : Nat} (part : endpoint.HearsPart behaviour status)
    (successful : Successful status)
    : Endpoint.readReply (Http.send behaviour endpoint request).value
      = .error (.network .reading) := by
  rw [part.send request]
  simp [Endpoint.readReply, isSuccess_iff.mpr successful]

theorem readReply_of_malformed {status : Nat} {body : Bytes} {fault : Json.Fault}
    (hears : endpoint.Hears behaviour status body) (successful : Successful status)
    (unreadable : Response.decode body = .error fault)
    : Endpoint.readReply (Http.send behaviour endpoint request).value
      = .error (.malformed fault body) := by
  rw [hears.send request]
  simp only [Endpoint.readReply, isSuccess_iff.mpr successful, Bool.not_true, Bool.false_eq_true,
    if_false, unreadable]
  rfl

end Replies

-----------------------------------------------------------------------------------------
-- What it means
-----------------------------------------------------------------------------------------

theorem ofResponse_failure (rule : UnsatRule) (message : String)
    : Outcome.ofResponse rule (.failure message) = .error message :=
  rfl

section Meanings

variable {rule : UnsatRule} {endpoint : Endpoint} {behaviour : Behaviour} {outcome : Outcome}

/-- What servers tell is what the answer to a question is taken for. -/
theorem Tells.eq_ofResponse (tells : Tells rule endpoint behaviour outcome) (formula : Formula)
    : outcome = .ofResponse rule (endpoint.solve behaviour formula).value := by
  have faulty {fault : SolverFault}
      (failed
        : Endpoint.readReply (Http.send behaviour endpoint
            (endpoint.request (.string formula.text))).value = .error fault)
      : Outcome.ofResponse rule (endpoint.solve behaviour formula).value
        = .error fault.message := by
    rw [endpoint.value_solve_of_error behaviour failed, ofResponse_failure]
  cases tells with
  | nowhere nowhere => exact (faulty (readReply_of_hearsNothing _ (.refused nowhere))).symm
  | silent finds silent =>
      exact (faulty (readReply_of_hearsNothing _ (.silent finds silent))).symm
  | wandering wanders => exact (faulty (readReply_of_hearsNothing _ (.wandering wanders))).symm
  | refused names other => exact (faulty (readReply_of_refused _ names other)).symm
  | brokenOff part successful => exact (faulty (readReply_of_hearsPart _ part successful)).symm
  | malformed hears successful unreadable =>
      exact (faulty (readReply_of_malformed _ hears successful unreadable)).symm
  | inBand answered error =>
      rw [endpoint.value_solve_of_ok behaviour (answered.readReply _), Outcome.ofResponse, error]
  | nothing answered noError noAssignment =>
      rw [endpoint.value_solve_of_ok behaviour (answered.readReply _), Outcome.ofResponse, noError,
        noAssignment, Outcome.noAnswer]
  | verdict answered noError some =>
      rw [endpoint.value_solve_of_ok behaviour (answered.readReply _)]

variable (rule endpoint behaviour)

/-- Servers always tell something, by cases on what comes and how it reads. -/
theorem exists_tells : ∃ outcome, Tells rule endpoint behaviour outcome := by
  rcases endpoint.hears_cases behaviour with
    ⟨fault, nothing⟩ | ⟨status, part⟩ | ⟨status, body, hears⟩
  · cases nothing with
    | refused nowhere => exact ⟨_, .nowhere nowhere⟩
    | silent finds silent => exact ⟨_, .silent finds silent⟩
    | wandering wanders => exact ⟨_, .wandering wanders⟩
  · by_cases successful : Successful status
    · exact ⟨_, .brokenOff part successful⟩
    · exact ⟨_, .refused (.inl part) successful⟩
  · by_cases successful : Successful status
    · cases read : Response.decode body with
      | error fault => exact ⟨_, .malformed hears successful read⟩
      | ok response =>
          have answered : Answered endpoint behaviour response :=
            ⟨status, body, hears, successful, read⟩
          cases error : response.error with
          | some message => exact ⟨_, .inBand answered error⟩
          | none =>
              by_cases none : response.assignment = none
              · exact ⟨_, .nothing answered error none⟩
              · exact ⟨_, .verdict answered error none⟩
    · exact ⟨_, .refused (.inr ⟨body, hears⟩) successful⟩

variable {rule endpoint behaviour}

theorem tells_iff (formula : Formula)
    : Tells rule endpoint behaviour outcome
      ↔ outcome = .ofResponse rule (endpoint.solve behaviour formula).value := by
  constructor
  · intro tells
    exact tells.eq_ofResponse formula
  · rintro rfl
    obtain ⟨outcome, tells⟩ := exists_tells rule endpoint behaviour
    exact tells.eq_ofResponse formula ▸ tells

/-- A verdict has a genuine answer with an assignment behind it. -/
theorem Tells.answered (tells : Tells rule endpoint behaviour outcome)
    (isVerdict : ∀ message, outcome ≠ .error message)
    : ∃ response,
        Answered endpoint behaviour response
        ∧ response.error = none
        ∧ response.assignment ≠ none
        ∧ outcome = .ofResponse rule response := by
  cases tells with
  | verdict answered noError some => exact ⟨_, answered, noError, some, rfl⟩
  | nowhere | silent | wandering | refused | brokenOff | malformed | inBand | nothing =>
      exact absurd rfl (isVerdict _)

/-- A genuine answer comes from a server that listens. -/
theorem Answered.listens {response : Response} (answered : Answered endpoint behaviour response)
    : behaviour ≠ .unreachable ∧ ∃ address, endpoint.address? = some address := by
  obtain ⟨status, body, hears, -⟩ := answered
  exact hears.listens

end Meanings

-----------------------------------------------------------------------------------------
-- Texts
-----------------------------------------------------------------------------------------

namespace Settings

variable (settings : Settings) (behaviour : Behaviour)

theorem solve_of_blank {text : String} (blank : Text.isBlankString text = true)
    : settings.solve behaviour text = .pure (.error .blank) := by
  simp only [solve, prepare, Formula.ofString?_of_blank blank]

theorem solve_of_malformed {text : String} {fault : SyntaxError}
    (notBlank : Text.isBlankString text = false) (failed : checkText text = .error fault)
    : settings.solve behaviour text = .pure (.error (.malformed fault)) := by
  have faulty : Formula.check ⟨text, notBlank⟩ = .error fault := failed
  simp only [solve, prepare, Formula.ofString?_of_not_blank notBlank, faulty]

/-- A text that is a formula is asked about as it stands, unless there is no endpoint. -/
theorem solve_of_isWellFormed {text : String} (accepted : isWellFormed text = true)
    : ∃ formula : Formula,
        formula.text = text
        ∧ settings.solve behaviour text
          = match Endpoint.ofBaseUrl settings.baseUrl with
            | .error bad => .pure (.error (.badBaseUrl bad))
            | .ok endpoint =>
                (endpoint.solve behaviour formula).map fun response =>
                  .ok (.ofResponse settings.rule response) := by
  have notBlank := not_blank_of_isWellFormed accepted
  obtain ⟨checked, check⟩ := exists_checked_iff.mpr accepted
  have passed : Formula.check ⟨text, notBlank⟩ = .ok checked := check
  refine ⟨⟨text, notBlank⟩, rfl, ?_⟩
  simp only [solve, prepare, Formula.ofString?_of_not_blank notBlank, passed]
  cases Endpoint.ofBaseUrl settings.baseUrl <;> rfl

/-- What comes to an outcome is a formula. -/
theorem isWellFormed_of_solve {text : String} {outcome : Outcome}
    (done : (settings.solve behaviour text).value = .ok outcome)
    : isWellFormed text = true := by
  cases check : checkText text with
  | ok checked => exact exists_checked_iff.mp ⟨checked, check⟩
  | error fault =>
      cases blank : Text.isBlankString text with
      | true =>
          rw [settings.solve_of_blank behaviour blank] at done
          cases done
      | false =>
          rw [settings.solve_of_malformed behaviour blank check] at done
          cases done

section Found

variable {settings} {text : String} {endpoint : Endpoint} (accepted : isWellFormed text = true)
  (found : Endpoint.ofBaseUrl settings.baseUrl = .ok endpoint)

include accepted found

/-- A formula is asked about at the endpoint. -/
theorem asks_solve
    : endpoint.Asks behaviour (.string text) (settings.solve behaviour text) := by
  obtain ⟨formula, rfl, same⟩ := settings.solve_of_isWellFormed behaviour accepted
  rw [same, found]
  exact (endpoint.asks_solve behaviour formula).map _

/-- Its outcome is what servers tell. -/
theorem tells_iff_value_solve (outcome : Outcome)
    : Tells settings.rule endpoint behaviour outcome
      ↔ (settings.solve behaviour text).value = .ok outcome := by
  obtain ⟨formula, rfl, same⟩ := settings.solve_of_isWellFormed behaviour accepted
  rw [same, found, tells_iff formula]
  constructor
  · rintro rfl
    rfl
  · intro same
    cases same
    rfl

end Found

structure AsksGenuinely (text : String) : Prop where
  /-- A verdict is the meaning of a genuine answer to the one request that was sent. -/
  verdict
    : ∀ {outcome},
        (settings.solve behaviour text).value = .ok outcome
        → (∀ message, outcome ≠ .error message)
        → isWellFormed text = true
          ∧ ∃ endpoint response,
              Endpoint.ofBaseUrl settings.baseUrl = .ok endpoint
              ∧ endpoint.SendsOnce behaviour (.string text) (settings.solve behaviour text)
              ∧ (settings.solve behaviour text).received.head?
                = some (endpoint.request (.string text))
              ∧ Answered endpoint behaviour response
              ∧ response.error = none
              ∧ response.assignment ≠ none
              ∧ outcome = .ofResponse settings.rule response
  /-- A blank text is refused as blank, before the grammar could call it empty. -/
  blank
    : Text.isBlankString text = true
      → (settings.solve behaviour text).Declines (.error .blank)
  /-- Any other text that is no formula is refused with the fault that the check finds. -/
  malformed
    : Text.isBlankString text = false
      → ∀ {fault},
          checkText text = .error fault
          → fault ≠ .empty
            ∧ (settings.solve behaviour text).Declines (.error (.malformed fault))
  /-- A formula is not sent without an endpoint. -/
  badBaseUrl
    : isWellFormed text = true
      → ∀ {bad},
          Endpoint.ofBaseUrl settings.baseUrl = .error bad
          → (settings.solve behaviour text).Declines (.error (.badBaseUrl bad))
  /-- It is not sent either to an endpoint whose URL no request can have. -/
  nowhere
    : isWellFormed text = true
      → ∀ {endpoint},
          Endpoint.ofBaseUrl settings.baseUrl = .ok endpoint
          → endpoint.address? = none
          → (settings.solve behaviour text).SendsNothing
  /-- To any other endpoint it is sent once, as it stands. -/
  asked
    : isWellFormed text = true
      → ∀ {endpoint address},
          Endpoint.ofBaseUrl settings.baseUrl = .ok endpoint
          → endpoint.address? = some address
          → endpoint.SendsOnce behaviour (.string text) (settings.solve behaviour text)
  /-- A server that does not send the client on gets this request and no other. -/
  direct
    : isWellFormed text = true
      → ∀ {endpoint address},
          Endpoint.ofBaseUrl settings.baseUrl = .ok endpoint
          → endpoint.address? = some address
          → behaviour.isPlain = true
          → behaviour ≠ .unreachable
          → (settings.solve behaviour text).received
            = [⟨"POST", endpoint.place.target, some "application/json",
                requestBody (.string text)⟩]
  /-- The outcome is what servers tell. -/
  meaning
    : isWellFormed text = true
      → ∀ {endpoint},
          Endpoint.ofBaseUrl settings.baseUrl = .ok endpoint
          → ∀ outcome,
              Tells settings.rule endpoint behaviour outcome
              ↔ (settings.solve behaviour text).value = .ok outcome

/-- Asking reports a verdict only from a genuine answer, and everything else as what it is. -/
theorem asksGenuinely (text : String) : settings.AsksGenuinely behaviour text := by
  constructor
  · intro outcome done isVerdict
    have accepted := settings.isWellFormed_of_solve behaviour done
    refine ⟨accepted, ?_⟩
    cases found : Endpoint.ofBaseUrl settings.baseUrl with
    | error bad =>
        obtain ⟨formula, _, same⟩ := settings.solve_of_isWellFormed behaviour accepted
        rw [same, found] at done
        cases done
    | ok endpoint =>
        have tells := (tells_iff_value_solve behaviour accepted found outcome).mpr done
        obtain ⟨response, answered, noError, some, isMeaning⟩ := tells.answered isVerdict
        obtain ⟨listens, address, somewhere⟩ := answered.listens
        have once := (asks_solve behaviour accepted found).once somewhere
        refine ⟨endpoint, response, rfl, once, ?_, answered, noError, some, isMeaning⟩
        rw [once.received]
        exact Behaviour.head?_gets listens _ _
  · intro blank
    rw [settings.solve_of_blank behaviour blank]
    exact ⟨rfl, rfl, rfl⟩
  · intro notBlank fault failed
    rw [settings.solve_of_malformed behaviour notBlank failed]
    refine ⟨?_, rfl, rfl, rfl⟩
    rintro rfl
    rw [checkText_eq_empty_iff.mp failed] at notBlank
    cases notBlank
  · intro accepted bad noEndpoint
    obtain ⟨formula, _, same⟩ := settings.solve_of_isWellFormed behaviour accepted
    rw [same, noEndpoint]
    exact ⟨rfl, rfl, rfl⟩
  · intro accepted endpoint found nowhere
    exact (asks_solve behaviour accepted found).nothing nowhere
  · intro accepted endpoint address found somewhere
    exact (asks_solve behaviour accepted found).once somewhere
  · intro accepted endpoint address found somewhere plain listens
    rw [((asks_solve behaviour accepted found).once somewhere).received]
    exact Behaviour.gets_of_isPlain plain listens _ _
  · intro accepted endpoint found
    exact tells_iff_value_solve behaviour accepted found

def satisfied : Bytes := Utf8.ofString "\x7b\"assignment\":\"(a,true)\",\"error\":null\x7d"

/-- Settings with an internet address as the host of their base URL. -/
def loopback : Settings := { standard with baseUrl := "http://[::1]" }

/-- A formula is sent once, and a whole answer with an assignment is a verdict. -/
theorem asksGenuinely_satisfied
    : (loopback.solve (.answers ⟨200, satisfied.length, satisfied⟩) "~(a)").sent
        = [⟨"POST", "/marina", some "application/json", requestBody (.string "~(a)")⟩]
      ∧ (loopback.solve (.answers ⟨200, satisfied.length, satisfied⟩) "~(a)").value
        = .ok (.satisfiable [⟨"a", true⟩]) := by
  have asks := loopback.asksGenuinely (.answers ⟨200, satisfied.length, satisfied⟩) "~(a)"
  have accepted : isWellFormed "~(a)" = true := by decide +kernel
  have found
      : Endpoint.ofBaseUrl loopback.baseUrl
        = .ok
            ⟨.http,
              ⟨⟨[], []⟩, .ipv6 ⟨[0, 0, 0, 0, 0, 0, 0, 1]⟩, none, ["marina".toList], none, none⟩,
              .inl rfl⟩ :=
    rfl
  constructor
  · refine (asks.asked accepted found (Endpoint.address?_of_takesRequests ?_)).sent
    decide +kernel
  · refine (asks.meaning accepted found _).mp (.verdict ⟨200, satisfied, ?_, ?_, rfl⟩ rfl nofun)
    · refine .of_delivers (Endpoint.address?_of_takesRequests ?_) ?_
      · decide +kernel
      · exact .whole rfl rfl (Nat.le_refl _)
    · exact ⟨by decide, by decide⟩

def braced : Settings := { standard with baseUrl := "http://a\x7bb\x7d" }

/-- Not every formula is sent where there is an endpoint. -/
theorem solve_braced
    : isWellFormed "a" = true
      ∧ (∃ endpoint, Endpoint.ofBaseUrl braced.baseUrl = .ok endpoint)
      ∧ (braced.solve (.answers ⟨200, satisfied.length, satisfied⟩) "a").sent = []
      ∧ (braced.solve (.answers ⟨200, satisfied.length, satisfied⟩) "a").value
        = .ok
            (.error
              "Network error occurred: builder error for url (http://a\x7bb\x7d/marina)") := by
  have found
      : Endpoint.ofBaseUrl braced.baseUrl
        = .ok
            ⟨.http,
              ⟨⟨[], []⟩, .name "a\x7bb\x7d".toList, none, ["marina".toList], none, none⟩,
              .inl rfl⟩ :=
    eq_ok_of_toOption (by decide +kernel)
  refine ⟨by decide +kernel, ⟨_, found⟩, by decide +kernel, ?_⟩
  exact eq_ok_of_toOption (by decide +kernel)

end Settings

end SatClient
