import SatClient.Proofs.Forwarder.Requested
import SatClient.Proofs.Solver.Posting

/-! What a browser gets from the forwarder, told by the body it posts and by what the solver makes
of one request. The solver is asked once for every body that asks for something, and is left
alone otherwise; its answer is passed on byte for byte if it is JSON, and whatever fails on the
way looks the same.
-/

namespace SatClient.Forwarder

open Http (Behaviour Request Traced)
open Json (Value)
open Utf8 (Bytes)

def nothingAsked : Answer :=
  ⟨400, some "application/json", none,
    Utf8.ofString "\x7b\"error\":\"Formula is required\"\x7d"⟩

def failure : Answer :=
  ⟨500, some "application/json", none,
    Utf8.ofString "\x7b\"error\":\"Internal server error\"\x7d"⟩

/-- The solver cannot be reached or gives no whole answer. -/
def Lost (endpoint : Endpoint) (behaviour : Behaviour) : Prop :=
  (∃ fault, endpoint.HearsNothing behaviour fault)
  ∨ ∃ status, endpoint.HearsPart behaviour status

/-- The solver answers with a status and a whole body, which is no JSON. -/
def Foreign (endpoint : Endpoint) (behaviour : Behaviour) : Prop :=
  ∃ status reply, endpoint.Hears behaviour status reply ∧ ¬ IsJson reply

/-- Something fails on the way to an answer and back. -/
inductive Fails (endpoint : Endpoint) (behaviour : Behaviour) (body : Bytes) : Prop
  | unreadable (unreadable : ∀ raw, ¬ Reads body raw)
  | lost {v} (asks : Requests body v) (lost : Lost endpoint behaviour)
  | foreign {v} (asks : Requests body v) (foreign : Foreign endpoint behaviour)

-----------------------------------------------------------------------------------------
-- Forwarding a formula
-----------------------------------------------------------------------------------------

theorem formulaRequired_eq : formulaRequired = nothingAsked := by
  decide

theorem internalError_eq : internalError = failure := by
  decide

section Forwarding

variable (endpoint : Endpoint) (behaviour : Behaviour) (formula : Value)

theorem sendsNothing_passThrough (forwarded : Endpoint.Forwarded)
    : (passThrough forwarded).SendsNothing := by
  rw [passThrough]
  cases Json.checkText forwarded.body <;> exact ⟨rfl, rfl⟩

theorem asks_forwardFormula
    : endpoint.Asks behaviour formula (forwardFormula endpoint behaviour formula) := by
  refine ((endpoint.asks_post behaviour formula).map _).andThen fun result => ?_
  cases result with
  | ok forwarded => exact sendsNothing_passThrough forwarded
  | error fault => exact ⟨rfl, rfl⟩

theorem value_forwardFormula_of_lost (lost : Lost endpoint behaviour)
    : (forwardFormula endpoint behaviour formula).value = failure := by
  have failed : ∃ fault, (endpoint.forward behaviour formula).value = .error fault := by
    rcases lost with ⟨fault, nothing⟩ | ⟨status, part⟩
    · refine ⟨fault, ?_⟩
      rw [Endpoint.forward, Traced.map, Endpoint.value_post, nothing.send]
      rfl
    · refine ⟨.reading, ?_⟩
      rw [Endpoint.forward, Traced.map, Endpoint.value_post, part.send]
      rfl
  obtain ⟨fault, failed⟩ := failed
  rw [forwardFormula, Traced.andThen, failed]
  exact internalError_eq

theorem value_forwardFormula_of_hears {status : Nat} {reply : Bytes}
    (hears : endpoint.Hears behaviour status reply)
    : (forwardFormula endpoint behaviour formula).value = (passThrough ⟨status, reply⟩).value := by
  have arrived : (endpoint.forward behaviour formula).value = .ok ⟨status, reply⟩ := by
    rw [Endpoint.forward, Traced.map, Endpoint.value_post, hears.send]
    rfl
  rw [forwardFormula, Traced.andThen, arrived]

end Forwarding

/-- A reply that is JSON is passed on without a word in the log. -/
theorem passThrough_of_isJson {status : Nat} {reply : Bytes} (isJson : IsJson reply)
    : passThrough ⟨status, reply⟩ = .pure ⟨status, some "application/json", none, reply⟩ := by
  have checked : Json.checkText reply = .ok () := Json.checkText_eq_ok_iff.mpr isJson
  rw [passThrough]
  dsimp only
  rw [checked]
  rfl

theorem value_passThrough_of_not_isJson {status : Nat} {reply : Bytes} (notJson : ¬ IsJson reply)
    : (passThrough ⟨status, reply⟩).value = failure := by
  rw [passThrough]
  dsimp only
  cases checked : Json.checkText reply with
  | ok found => exact absurd (Json.checkText_eq_ok_iff.mp checked) notJson
  | error fault => exact internalError_eq

-----------------------------------------------------------------------------------------
-- A request to the service
-----------------------------------------------------------------------------------------

section Service

variable {endpoint : Endpoint} {behaviour : Behaviour} {request : Request} {body : Bytes}
  {v : Value}

theorem handle_of_isPosted (isPosted : IsPosted request)
    (fits : request.body.length ≤ maxLength)
    : handle endpoint behaviour request = solve endpoint behaviour request.body := by
  rw [handle, if_neg (not_not_intro isPosted.path), if_neg (not_not_intro isPosted.method),
    if_neg (Nat.not_lt.mpr fits)]

/-- A body that is too long is not read at all. -/
theorem declines_of_long (isPosted : IsPosted request) (long : maxLength < request.body.length)
    : (handle endpoint behaviour request).Declines tooLong := by
  rw [handle, if_neg (not_not_intro isPosted.path), if_neg (not_not_intro isPosted.method),
    if_pos long]
  exact ⟨rfl, rfl, rfl⟩

theorem solve_of_requests (asks : Requests body v)
    : solve endpoint behaviour body = forwardFormula endpoint behaviour v.settled := by
  obtain ⟨request, read, found⟩ := asks.requestedFormula
  rw [solve, read]
  dsimp only
  rw [found]

theorem declines_of_unreadable (unreadable : ∀ raw, ¬ Reads body raw)
    : (solve endpoint behaviour body).Declines failure := by
  cases read : Json.parse body with
  | ok v =>
      obtain ⟨raw, reads, -⟩ := exists_reads_of_parse read
      exact absurd reads (unreadable raw)
  | error fault =>
      rw [solve, read]
      exact ⟨internalError_eq, rfl, rfl⟩

theorem declines_of_unasked {raw : Value} (reads : Reads body raw)
    (asksNothing : ∀ v, ¬ Requests body v)
    : (solve endpoint behaviour body).Declines nothingAsked := by
  rw [solve, reads.parse]
  dsimp only
  cases found : requestedFormula raw.settled with
  | none => exact ⟨formulaRequired_eq, rfl, rfl⟩
  | some v =>
      obtain ⟨w, asks⟩ := reads.requests found
      exact absurd asks (asksNothing w)

theorem Fails.value (fails : Fails endpoint behaviour body)
    : (solve endpoint behaviour body).value = failure := by
  cases fails with
  | unreadable unreadable => exact (declines_of_unreadable unreadable).value
  | lost asks lost =>
      rw [solve_of_requests asks]
      exact value_forwardFormula_of_lost endpoint behaviour _ lost
  | foreign asks foreign =>
      obtain ⟨status, reply, hears, notJson⟩ := foreign
      rw [solve_of_requests asks, value_forwardFormula_of_hears endpoint behaviour _ hears]
      exact value_passThrough_of_not_isJson notJson

theorem Requests.value_solve {status : Nat} {reply : Bytes} (asks : Requests body v)
    (hears : endpoint.Hears behaviour status reply) (isJson : IsJson reply)
    : (solve endpoint behaviour body).value
      = ⟨status, some "application/json", none, reply⟩ := by
  rw [solve_of_requests asks, value_forwardFormula_of_hears endpoint behaviour _ hears,
    passThrough_of_isJson isJson]
  rfl

end Service

/-- A body that asks for something gets either a failure or what the solver sent. -/
theorem Requests.fails_or_hears {endpoint : Endpoint} {behaviour : Behaviour} {body : Bytes}
    {v : Value} (asks : Requests body v)
    : Fails endpoint behaviour body
      ∨ ∃ status reply, endpoint.Hears behaviour status reply ∧ IsJson reply := by
  rcases endpoint.hears_cases behaviour with nothing | part | ⟨status, reply, hears⟩
  · exact .inl (.lost asks (.inl nothing))
  · exact .inl (.lost asks (.inr part))
  · by_cases isJson : IsJson reply
    · exact .inr ⟨status, reply, hears, isJson⟩
    · exact .inl (.foreign asks ⟨status, reply, hears, isJson⟩)

/-- What a body comes to that is read. -/
structure Serves (endpoint : Endpoint) (behaviour : Behaviour) (body : Bytes)
    (run : Traced Answer)
    : Prop where
  /-- A body that is no JSON is an error, and the solver is left alone. -/
  unreadable : (∀ raw, ¬ Reads body raw) → run.Declines failure
  /-- A body that asks for nothing is refused, and the solver is left alone. -/
  unasked
    : ∀ {raw}, Reads body raw → (∀ v, ¬ Requests body v) → run.Declines nothingAsked
  /-- Without an address it is an error to ask for something, and the solver is left alone. -/
  nowhere : ∀ {v}, Requests body v → endpoint.address? = none → run.Declines failure
  /-- A body that asks for something is one request to the solver, which may send it on. -/
  asked
    : ∀ {v address},
        Requests body v
        → endpoint.address? = some address
        → endpoint.SendsOnce behaviour v.settled run
  /-- A solver that does not send it on gets this request and no other. -/
  direct
    : ∀ {v address},
        Requests body v
        → endpoint.address? = some address
        → behaviour.isPlain = true
        → behaviour ≠ .unreachable
        → run.received
          = [⟨"POST", endpoint.place.target, some "application/json", requestBody v.settled⟩]
  /-- Without a whole answer of the solver there is an error. -/
  lost : ∀ {v}, Requests body v → Lost endpoint behaviour → run.value = failure
  /-- An answer of the solver that is no JSON is an error, with any status. -/
  foreign
    : ∀ {v status reply},
        Requests body v
        → endpoint.Hears behaviour status reply
        → ¬ IsJson reply
        → run.value = failure
  /-- Any other answer is passed on with its status and its bytes. -/
  passed
    : ∀ {v status reply},
        Requests body v
        → endpoint.Hears behaviour status reply
        → IsJson reply
        → run.value = ⟨status, some "application/json", none, reply⟩
  /-- There is no other case. -/
  exhaustive
    : Fails endpoint behaviour body
      ∨ ((∃ raw, Reads body raw) ∧ ∀ v, ¬ Requests body v)
      ∨ ∃ v status reply,
          Requests body v ∧ endpoint.Hears behaviour status reply ∧ IsJson reply

theorem serves_solve (endpoint : Endpoint) (behaviour : Behaviour) (body : Bytes)
    : Serves endpoint behaviour body (solve endpoint behaviour body) := by
  constructor
  · exact declines_of_unreadable
  · exact declines_of_unasked
  · intro v asks nowhere
    refine ⟨(Fails.lost asks (.inl ⟨_, .refused nowhere⟩)).value, ?_⟩
    rw [solve_of_requests asks]
    exact (asks_forwardFormula endpoint behaviour v.settled).nothing nowhere
  · intro v address asks somewhere
    rw [solve_of_requests asks]
    exact (asks_forwardFormula endpoint behaviour v.settled).once somewhere
  · intro v address asks somewhere plain listens
    rw [solve_of_requests asks,
      ((asks_forwardFormula endpoint behaviour v.settled).once somewhere).received]
    exact Behaviour.gets_of_isPlain plain listens _ _
  · intro v asks lost
    exact (Fails.lost asks lost).value
  · intro v status reply asks hears notJson
    exact (Fails.foreign asks ⟨status, reply, hears, notJson⟩).value
  · intro v status reply asks hears isJson
    exact asks.value_solve hears isJson
  · by_cases readable : ∃ raw, Reads body raw
    · by_cases asksNothing : ∀ v, ¬ Requests body v
      · exact .inr (.inl ⟨readable, asksNothing⟩)
      · obtain ⟨v, asks⟩ := Classical.not_forall_not.mp asksNothing
        rcases asks.fails_or_hears with fails | ⟨status, reply, hears, isJson⟩
        · exact .inl fails
        · exact .inr (.inr ⟨v, status, reply, asks, hears, isJson⟩)
    · exact .inl (.unreadable fun raw reads => readable ⟨raw, reads⟩)

/-- What a posted request comes to. -/
structure KeepsContract (endpoint : Endpoint) (behaviour : Behaviour) (request : Request)
    : Prop where
  /-- A body that is too long is refused unread, and the solver is left alone. -/
  long : maxLength < request.body.length → (handle endpoint behaviour request).Declines tooLong
  read
    : request.body.length ≤ maxLength
      → Serves endpoint behaviour request.body (handle endpoint behaviour request)
  /-- No two failures can be told apart, whatever the solvers, the requests and the causes. -/
  alike
    : ∀ {endpoint' behaviour' request'},
        IsPosted request'
        → request.body.length ≤ maxLength
        → request'.body.length ≤ maxLength
        → Fails endpoint behaviour request.body
        → Fails endpoint' behaviour' request'.body
        → (handle endpoint behaviour request).value
          = (handle endpoint' behaviour' request').value

/-- Every request that is posted to the service is answered by the contract. -/
theorem keepsContract (endpoint : Endpoint) (behaviour : Behaviour) {request : Request}
    (isPosted : IsPosted request)
    : KeepsContract endpoint behaviour request := by
  constructor
  · exact declines_of_long isPosted
  · intro fits
    rw [handle_of_isPosted isPosted fits]
    exact serves_solve endpoint behaviour request.body
  · intro endpoint' behaviour' request' isPosted' fits fits' fails fails'
    rw [handle_of_isPosted isPosted fits, handle_of_isPosted isPosted' fits', fails.value,
      fails'.value]

/-- A body that writes its formula twice asks for the last one. -/
theorem requests_doubled
    : Requests (Utf8.ofString "\x7b\"formula\":0,\"formula\":\"a\"\x7d") (.string "a") := by
  have written
      : Utf8.ofString "\x7b\"formula\":0,\"formula\":\"a\"\x7d"
        = Utf8.encode
            (Value.object
              [("formula", .number (.natural 0)), ("formula", .string "a")]).compact := by
    decide
  rw [written]
  refine .formula ⟨Json.holds_compact ?_, by decide⟩
    ⟨[("formula", .number (.natural 0))], [], rfl, nofun⟩
    (isTruthy_eq_true_iff.mp (by decide))
  intro n isIn
  cases List.mem_singleton.mp isIn
  exact .natural (by decide)

/-- An answer with an error status is passed on to a request that writes its formula twice. -/
theorem keepsContract_refused
    : (handle ⟨.http, ⟨⟨[], []⟩, .ipv4 ⟨0x7F000001⟩, some 10101, ["marina".toList], none, none⟩,
          .inl rfl⟩
        (.answers ⟨422, 2, Utf8.ofString "[]"⟩)
        ⟨"POST", "/api/solve?page=1", none,
          Utf8.ofString "\x7b\"formula\":0,\"formula\":\"a\"\x7d"⟩).value
      = ⟨422, some "application/json", none, Utf8.ofString "[]"⟩ := by
  have isJson : IsJson (Utf8.ofString "[]") :=
    ⟨.array [], .whole .none (.array (.done .none)) .none⟩
  refine ((keepsContract _ _ ⟨rfl, ?_⟩).read ?_).passed requests_doubled ?_ isJson
  · decide
  · decide
  · exact .of_delivers (Endpoint.address?_of_takesRequests (by decide +kernel))
      (.whole rfl rfl (by decide))

/-- The solver does not get one request for every body that asks for something: none under a host
with braces, and another one if it sends the client on. A body that is too long gets another answer
than one that fails or asks for nothing.
-/
theorem handle_departs
    : Requests (Utf8.ofString "\x7b\"formula\":0,\"formula\":\"a\"\x7d") (.string "a")
      ∧ (handle
            ⟨.http,
              ⟨⟨[], []⟩, .name "a\x7bb\x7d".toList, none, ["marina".toList], none, none⟩,
              .inl rfl⟩
            (.answers ⟨200, 2, Utf8.ofString "[]"⟩)
            ⟨"POST", "/api/solve", none,
              Utf8.ofString "\x7b\"formula\":0,\"formula\":\"a\"\x7d"⟩).received
        = []
      ∧ (handle
            ⟨.http, ⟨⟨[], []⟩, .name ['a'], none, ["marina".toList], none, none⟩, .inl rfl⟩
            (.redirects .repeats
              ⟨⟨.http, ⟨⟨[], []⟩, .name ['b'], none, [], none, none⟩, .inl rfl⟩,
                by decide +kernel⟩
              (.answers ⟨200, 2, Utf8.ofString "[]"⟩))
            ⟨"POST", "/api/solve", none,
              Utf8.ofString "\x7b\"formula\":0,\"formula\":\"a\"\x7d"⟩).received.length
        = 2
      ∧ (handle
            ⟨.http, ⟨⟨[], []⟩, .name ['a'], none, ["marina".toList], none, none⟩, .inl rfl⟩
            .unreachable
            ⟨"POST", "/api/solve", none, List.replicate (maxLength + 1) 120⟩).value
        ∉ [failure, nothingAsked] := by
  refine ⟨requests_doubled, ?_, ?_, ?_⟩
  · rw [handle_of_isPosted ⟨rfl, by decide⟩ (by decide), solve_of_requests requests_doubled]
    exact ((asks_forwardFormula ..).nothing
      (Endpoint.address?_of_not_takesRequests (by decide +kernel))).received
  · rw [handle_of_isPosted ⟨rfl, by decide⟩ (by decide), solve_of_requests requests_doubled,
      ((asks_forwardFormula ..).once
        (Endpoint.address?_of_takesRequests (by decide +kernel))).received]
    rfl
  · rw [(declines_of_long ⟨rfl, by decide⟩ ?_).value]
    · decide
    · rw [List.length_replicate]
      exact Nat.lt_succ_self _

end SatClient.Forwarder
