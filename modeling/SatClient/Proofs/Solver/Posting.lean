import SatClient.Proofs.Http.Delivery
import SatClient.Solver.Client

/-! One question is one request. Whatever becomes of it, it is sent once to an endpoint that takes
requests, and not at all to any other.
-/

namespace SatClient

/-- Nothing was sent, and no server got anything. -/
structure Http.Traced.SendsNothing {α : Type} (traced : Http.Traced α) : Prop where
  sent : traced.sent = []
  received : traced.received = []

/-- A value was given without sending anything. -/
structure Http.Traced.Declines {α : Type} (traced : Http.Traced α) (value : α) : Prop where
  value : traced.value = value
  nothing : traced.SendsNothing

namespace Endpoint

open Http (Behaviour Request Traced maxRedirects)

/-- What was sent to an endpoint is one request, and no server got anything but for that. -/
structure SendsOnce {α : Type} (endpoint : Endpoint) (behaviour : Behaviour) (prop : Json.Value)
    (traced : Traced α) : Prop where
  sent : traced.sent = [endpoint.request prop]
  received : traced.received = behaviour.gets maxRedirects (endpoint.request prop)

/-- What a question leaves behind: it was sent once, or not at all without an address. -/
structure Asks {α : Type} (endpoint : Endpoint) (behaviour : Behaviour) (prop : Json.Value)
    (traced : Traced α) : Prop where
  once
    : ∀ {address},
        endpoint.address? = some address → endpoint.SendsOnce behaviour prop traced
  nothing : endpoint.address? = none → traced.SendsNothing

variable {endpoint : Endpoint} {behaviour : Behaviour} {prop : Json.Value}

/-- What is done after a question, and sends nothing, leaves it the only one. -/
theorem Asks.andThen {α β : Type} {traced : Traced α} {next : α → Traced β}
    (asks : endpoint.Asks behaviour prop traced) (silent : ∀ value, (next value).SendsNothing)
    : endpoint.Asks behaviour prop (traced.andThen next) := by
  have sent : (traced.andThen next).sent = traced.sent := by
    rw [Traced.andThen, (silent traced.value).sent, List.append_nil]
  have received : (traced.andThen next).received = traced.received := by
    rw [Traced.andThen, (silent traced.value).received, List.append_nil]
  constructor
  · intro address somewhere
    have once := asks.once somewhere
    exact ⟨sent.trans once.sent, received.trans once.received⟩
  · intro nowhere
    have nothing := asks.nothing nowhere
    exact ⟨sent.trans nothing.sent, received.trans nothing.received⟩

theorem Asks.map {α β : Type} {traced : Traced α} (asks : endpoint.Asks behaviour prop traced)
    (f : α → β)
    : endpoint.Asks behaviour prop (traced.map f) :=
  ⟨fun somewhere => ⟨(asks.once somewhere).sent, (asks.once somewhere).received⟩,
    fun nowhere => ⟨(asks.nothing nowhere).sent, (asks.nothing nowhere).received⟩⟩

/-- Whatever was sent is the request for the value. -/
theorem Asks.eq_of_mem_sent {α : Type} {traced : Traced α}
    (asks : endpoint.Asks behaviour prop traced) {request : Request}
    (isSent : request ∈ traced.sent)
    : request = endpoint.request prop := by
  cases somewhere : endpoint.address? with
  | none =>
      rw [(asks.nothing somewhere).sent] at isSent
      cases isSent
  | some address =>
      rw [(asks.once somewhere).sent] at isSent
      exact List.mem_singleton.mp isSent

/-- Whatever a server gets is the request for the value, or says nothing. -/
theorem Asks.repeats {α : Type} {traced : Traced α} (asks : endpoint.Asks behaviour prop traced)
    {got : Request} (isGot : got ∈ traced.received)
    : got.Repeats (endpoint.request prop) := by
  cases somewhere : endpoint.address? with
  | none =>
      rw [(asks.nothing somewhere).received] at isGot
      cases isGot
  | some address =>
      rw [(asks.once somewhere).received] at isGot
      exact Behaviour.repeats_of_mem_gets isGot

/-- Two questions about one value at one endpoint leave the same requests behind. -/
theorem Asks.same {α β : Type} {traced : Traced α} {other : Traced β}
    (asks : endpoint.Asks behaviour prop traced) (asksToo : endpoint.Asks behaviour prop other)
    : traced.sent = other.sent ∧ traced.received = other.received := by
  cases somewhere : endpoint.address? with
  | none =>
      have nothing := asks.nothing somewhere
      have nothingToo := asksToo.nothing somewhere
      exact ⟨nothing.sent.trans nothingToo.sent.symm,
        nothing.received.trans nothingToo.received.symm⟩
  | some address =>
      have once := asks.once somewhere
      have onceToo := asksToo.once somewhere
      exact ⟨once.sent.trans onceToo.sent.symm, once.received.trans onceToo.received.symm⟩

variable (endpoint behaviour prop)

theorem asks_post : endpoint.Asks behaviour prop (endpoint.post behaviour prop) := by
  constructor
  · intro address somewhere
    change endpoint.SendsOnce behaviour prop
      (((Traced.pure ()).log endpoint.postingEvent).andThen fun _ =>
        Http.send behaviour endpoint (endpoint.request prop))
    rw [send_eq _ somewhere]
    exact ⟨rfl, rfl⟩
  · intro nowhere
    change Traced.SendsNothing
      (((Traced.pure ()).log endpoint.postingEvent).andThen fun _ =>
        Http.send behaviour endpoint (endpoint.request prop))
    rw [send_eq_pure _ nowhere]
    exact ⟨rfl, rfl⟩

theorem value_post
    : (endpoint.post behaviour prop).value
      = (Http.send behaviour endpoint (endpoint.request prop)).value :=
  rfl

theorem sendsNothing_settle (result : Except SolverFault Response)
    : (endpoint.settle result).SendsNothing := by
  cases result <;> exact ⟨rfl, rfl⟩

theorem asks_solve (formula : Formula)
    : endpoint.Asks behaviour (.string formula.text) (endpoint.solve behaviour formula) :=
  ((endpoint.asks_post behaviour (.string formula.text)).map readReply).andThen
    endpoint.sendsNothing_settle

theorem value_solve_of_ok {formula : Formula} {response : Response}
    (read
      : readReply (Http.send behaviour endpoint
          (endpoint.request (.string formula.text))).value = .ok response)
    : (endpoint.solve behaviour formula).value = response := by
  change (endpoint.settle (readReply _)).value = response
  rw [value_post, read]
  rfl

theorem value_solve_of_error {formula : Formula} {fault : SolverFault}
    (failed
      : readReply (Http.send behaviour endpoint
          (endpoint.request (.string formula.text))).value = .error fault)
    : (endpoint.solve behaviour formula).value = .failure fault.message := by
  change (endpoint.settle (readReply _)).value = _
  rw [value_post, failed]
  rfl

end Endpoint

end SatClient
