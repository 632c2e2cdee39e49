import SatClient.Http.Exchange

/-! What becomes of a request, told without the client that sends it. Servers may send the client
on, so that it comes to a last one: that one is silent, or it names a status and its body breaks
off, or it delivers a status with a whole body. Whoever asks at an endpoint hears just that, or
nothing because there are too many servers on the way, or because the endpoint is none for requests.
-/

namespace SatClient

namespace Http

open Utf8 (Bytes)

-----------------------------------------------------------------------------------------
-- One server
-----------------------------------------------------------------------------------------

/-- Whether a server does not send a client on. -/
def Behaviour.isPlain : Behaviour → Bool
  | redirects .. => false
  | _ => true

/-- No answer comes: nobody listens, the connection is closed, or a notice is all there is. -/
inductive Behaviour.Silent : Behaviour → Prop
  | unreachable : Silent .unreachable
  | closes : Silent .closes
  | notice {answer} (notFinal : isFinal answer.status = false) : Silent (.answers answer)

/-- An answer with a status comes, and its body is shorter than promised. -/
inductive Behaviour.BreaksOff : Behaviour → Nat → Prop
  | short {answer} (final : isFinal answer.status = true)
    (hasBody : isBodiless answer.status = false)
    (short : answer.body.length < answer.promised)
    : BreaksOff (.answers answer) answer.status

/-- An answer comes whole, with a status and a body. Nothing counts as body that lies beyond the
promised length, or behind a status that has none.
-/
inductive Behaviour.Delivers : Behaviour → Nat → Bytes → Prop
  | bodiless {answer} (final : isFinal answer.status = true)
    (noBody : isBodiless answer.status = true)
    : Delivers (.answers answer) answer.status []
  | whole {answer} (final : isFinal answer.status = true)
    (hasBody : isBodiless answer.status = false)
    (enough : answer.promised ≤ answer.body.length)
    : Delivers (.answers answer) answer.status (answer.body.take answer.promised)

/-- A server that does not send a client on behaves in one of the three ways. -/
theorem Behaviour.silent_or_names {behaviour : Behaviour} (plain : behaviour.isPlain = true)
    : behaviour.Silent
      ∨ (∃ status, behaviour.BreaksOff status)
      ∨ ∃ status body, behaviour.Delivers status body := by
  cases behaviour with
  | unreachable => exact .inl .unreachable
  | closes => exact .inl .closes
  | redirects => cases plain
  | answers answer =>
      cases final : isFinal answer.status with
      | false => exact .inl (.notice final)
      | true =>
          right
          cases hasBody : isBodiless answer.status with
          | true => exact .inr ⟨_, _, .bodiless final hasBody⟩
          | false =>
              by_cases short : answer.body.length < answer.promised
              · exact .inl ⟨_, .short final hasBody short⟩
              · exact .inr ⟨_, _, .whole final hasBody (Nat.le_of_not_lt short)⟩

section Replies

variable {behaviour : Behaviour} (more : Nat) (url : String)

theorem Behaviour.Silent.reply (silent : behaviour.Silent)
    : behaviour.reply more url = .error (.sending url) := by
  cases silent with
  | unreachable => simp [Behaviour.reply]
  | closes => simp [Behaviour.reply]
  | notice notFinal => simp [Behaviour.reply, Answer.reply, notFinal]

theorem Behaviour.BreaksOff.reply {status : Nat} (breaksOff : behaviour.BreaksOff status)
    : behaviour.reply more url = .ok ⟨status, .error .reading⟩ := by
  cases breaksOff with
  | short final hasBody short => simp [Behaviour.reply, Answer.reply, final, hasBody, short]

theorem Behaviour.Delivers.reply {status : Nat} {body : Bytes}
    (delivers : behaviour.Delivers status body)
    : behaviour.reply more url = .ok ⟨status, .ok body⟩ := by
  cases delivers with
  | bodiless final noBody => simp [Behaviour.reply, Answer.reply, final, noBody]
  | whole final hasBody enough =>
      simp [Behaviour.reply, Answer.reply, final, hasBody, Nat.not_lt.mpr enough]

end Replies

-----------------------------------------------------------------------------------------
-- One server after another
-----------------------------------------------------------------------------------------

/-- Sent on so many times from a server under a URL, a client comes to another one. -/
inductive Behaviour.LeadsTo : Nat → String → Behaviour → String → Behaviour → Prop
  | here {url behaviour} : LeadsTo 0 url behaviour url behaviour
  | onward {count url redirection address next place last}
    (rest : LeadsTo count address.url next place last)
    : LeadsTo (count + 1) url (.redirects redirection address next) place last

/-- What comes back is what the server says to which the client is led. -/
theorem Behaviour.LeadsTo.reply {count : Nat} {url place : String} {behaviour last : Behaviour}
    (leads : behaviour.LeadsTo count url place last) (more : Nat)
    : behaviour.reply (count + more) url = last.reply more place := by
  induction leads with
  | here => rw [Nat.zero_add]
  | onward rest ih =>
      rw [Nat.succ_add]
      exact ih

/-- A client comes to a server that does not send it on, or is sent on too often, by induction on
the servers.
-/
theorem Behaviour.exists_last (limit : Nat) (url : String) (behaviour : Behaviour)
    : (∃ count place last,
        behaviour.LeadsTo count url place last ∧ count ≤ limit ∧ last.isPlain = true)
      ∨ ∃ place redirection address next,
        behaviour.LeadsTo limit url place (.redirects redirection address next) := by
  induction behaviour generalizing limit url with
  | unreachable => exact .inl ⟨0, _, _, .here, Nat.zero_le _, rfl⟩
  | closes => exact .inl ⟨0, _, _, .here, Nat.zero_le _, rfl⟩
  | answers answer => exact .inl ⟨0, _, _, .here, Nat.zero_le _, rfl⟩
  | redirects redirection address next ih =>
      cases limit with
      | zero => exact .inr ⟨_, _, _, _, .here⟩
      | succ limit =>
          rcases ih limit address.url with
            ⟨count, place, last, leads, few, plain⟩ | ⟨place, _, _, _, leads⟩
          · exact .inl ⟨count + 1, place, last, .onward leads, Nat.succ_le_succ few, plain⟩
          · exact .inr ⟨place, _, _, _, .onward leads⟩

-----------------------------------------------------------------------------------------
-- What servers get
-----------------------------------------------------------------------------------------

theorem Behaviour.gets_of_isPlain {behaviour : Behaviour} (plain : behaviour.isPlain = true)
    (listens : behaviour ≠ .unreachable) (limit : Nat) (request : Request)
    : behaviour.gets limit request = [request] := by
  cases behaviour with
  | unreachable => exact absurd rfl listens
  | closes => simp [Behaviour.gets]
  | answers answer => simp [Behaviour.gets]
  | redirects => cases plain

/-- The first server gets the request itself. -/
theorem Behaviour.head?_gets {behaviour : Behaviour} (listens : behaviour ≠ .unreachable)
    (limit : Nat) (request : Request)
    : (behaviour.gets limit request).head? = some request := by
  cases behaviour with
  | unreachable => exact absurd rfl listens
  | closes => simp [Behaviour.gets]
  | answers answer => simp [Behaviour.gets]
  | redirects => cases limit <;> simp [Behaviour.gets]

/-- A request with what another one says, or one that says nothing. -/
def Request.Repeats (request other : Request) : Prop :=
  (request.method = other.method ∧ request.contentType = other.contentType
      ∧ request.body = other.body)
    ∨ (request.method = "GET" ∧ request.contentType = none ∧ request.body = [])

/-- Whoever a client is sent on to gets the same request, or one without a body, by induction on the
servers.
-/
theorem Behaviour.repeats_of_mem_gets {behaviour : Behaviour} {limit : Nat}
    {request got : Request} (isGot : got ∈ behaviour.gets limit request)
    : got.Repeats request := by
  induction behaviour generalizing limit request with
  | unreachable => simp [Behaviour.gets] at isGot
  | closes =>
      simp only [Behaviour.gets, List.mem_singleton] at isGot
      exact isGot ▸ .inl ⟨rfl, rfl, rfl⟩
  | answers answer =>
      simp only [Behaviour.gets, List.mem_singleton] at isGot
      exact isGot ▸ .inl ⟨rfl, rfl, rfl⟩
  | redirects redirection address next ih =>
      cases limit with
      | zero =>
          simp only [Behaviour.gets, List.mem_singleton] at isGot
          exact isGot ▸ .inl ⟨rfl, rfl, rfl⟩
      | succ limit =>
          rcases List.mem_cons.mp isGot with rfl | isGot
          · exact .inl ⟨rfl, rfl, rfl⟩
          · have repeats := ih isGot
            cases redirection with
            | repeats => exact repeats
            | fetches =>
                rcases repeats with same | nothing
                · exact .inr same
                · exact .inr nothing

end Http

-----------------------------------------------------------------------------------------
-- Asking at an endpoint
-----------------------------------------------------------------------------------------

namespace Endpoint

open Http (Behaviour Fault Request maxRedirects send)
open Utf8 (Bytes)

variable {endpoint : Endpoint} {behaviour : Behaviour} {address : Http.Address}

/-- Whoever asks at an endpoint comes to a server under a URL. -/
def Finds (endpoint : Endpoint) (behaviour : Behaviour) (place : String) (last : Behaviour)
    : Prop :=
  ∃ address count,
    endpoint.address? = some address
    ∧ behaviour.LeadsTo count address.url place last
    ∧ count ≤ maxRedirects

/-- Whoever asks at an endpoint is sent on too often, the last time from under a URL. -/
def Wanders (endpoint : Endpoint) (behaviour : Behaviour) (place : String) : Prop :=
  ∃ address redirection elsewhere next,
    endpoint.address? = some address
    ∧ behaviour.LeadsTo maxRedirects address.url place (.redirects redirection elsewhere next)

/-- Whoever asks at an endpoint gets no answer: it is none for requests, or the server that is asked
in the end is silent, or there are too many on the way.
-/
inductive HearsNothing (endpoint : Endpoint) (behaviour : Behaviour) : Fault → Prop
  | refused (nowhere : endpoint.address? = none)
    : HearsNothing endpoint behaviour (.building endpoint.bare.text)
  | silent {place last} (finds : endpoint.Finds behaviour place last) (silent : last.Silent)
    : HearsNothing endpoint behaviour (.sending place)
  | wandering {place} (wanders : endpoint.Wanders behaviour place)
    : HearsNothing endpoint behaviour (.redirecting place)

/-- Whoever asks at an endpoint gets an answer with a status, which breaks off. -/
def HearsPart (endpoint : Endpoint) (behaviour : Behaviour) (status : Nat) : Prop :=
  ∃ place last, endpoint.Finds behaviour place last ∧ last.BreaksOff status

/-- Whoever asks at an endpoint gets a whole answer. -/
def Hears (endpoint : Endpoint) (behaviour : Behaviour) (status : Nat) (body : Bytes) : Prop :=
  ∃ place last, endpoint.Finds behaviour place last ∧ last.Delivers status body

/-- Something of one of the three kinds becomes of every request. -/
theorem hears_cases (endpoint : Endpoint) (behaviour : Behaviour)
    : (∃ fault, endpoint.HearsNothing behaviour fault)
      ∨ (∃ status, endpoint.HearsPart behaviour status)
      ∨ ∃ status body, endpoint.Hears behaviour status body := by
  cases somewhere : endpoint.address? with
  | none => exact .inl ⟨_, .refused somewhere⟩
  | some address =>
      rcases behaviour.exists_last maxRedirects address.url with
        ⟨count, place, last, leads, few, plain⟩ | ⟨place, _, _, _, leads⟩
      · have finds : endpoint.Finds behaviour place last := ⟨_, _, somewhere, leads, few⟩
        rcases Behaviour.silent_or_names plain with
          silent | ⟨status, breaksOff⟩ | ⟨status, body, delivers⟩
        · exact .inl ⟨_, .silent finds silent⟩
        · exact .inr (.inl ⟨status, place, last, finds, breaksOff⟩)
        · exact .inr (.inr ⟨status, body, place, last, finds, delivers⟩)
      · exact .inl ⟨_, .wandering ⟨_, _, _, _, somewhere, leads⟩⟩

section Sending

variable (request : Request)

theorem send_eq (somewhere : endpoint.address? = some address)
    : send behaviour endpoint request
      = ⟨behaviour.reply maxRedirects address.url, [request],
          behaviour.gets maxRedirects request, []⟩ := by
  rw [send, somewhere]

theorem send_eq_pure (nowhere : endpoint.address? = none)
    : send behaviour endpoint request = .pure (.error (.building endpoint.bare.text)) := by
  rw [send, nowhere]

theorem Finds.send {place : String} {last : Behaviour} (finds : endpoint.Finds behaviour place last)
    : ∃ more, (send behaviour endpoint request).value = last.reply more place := by
  obtain ⟨address, count, somewhere, leads, few⟩ := finds
  obtain ⟨more, total⟩ := Nat.exists_eq_add_of_le few
  refine ⟨more, ?_⟩
  rw [send_eq request somewhere, total]
  exact leads.reply more

theorem HearsNothing.send {fault : Fault} (nothing : endpoint.HearsNothing behaviour fault)
    : (send behaviour endpoint request).value = .error fault := by
  cases nothing with
  | refused nowhere =>
      rw [send_eq_pure request nowhere]
      rfl
  | silent finds silent =>
      obtain ⟨more, same⟩ := finds.send request
      rw [same, silent.reply]
  | wandering wanders =>
      obtain ⟨address, _, _, _, somewhere, leads⟩ := wanders
      rw [send_eq request somewhere]
      exact leads.reply 0

theorem HearsPart.send {status : Nat} (part : endpoint.HearsPart behaviour status)
    : (send behaviour endpoint request).value = .ok ⟨status, .error .reading⟩ := by
  obtain ⟨place, last, finds, breaksOff⟩ := part
  obtain ⟨more, same⟩ := finds.send request
  rw [same, breaksOff.reply]

theorem Hears.send {status : Nat} {body : Bytes} (hears : endpoint.Hears behaviour status body)
    : (send behaviour endpoint request).value = .ok ⟨status, .ok body⟩ := by
  obtain ⟨place, last, finds, delivers⟩ := hears
  obtain ⟨more, same⟩ := finds.send request
  rw [same, delivers.reply]

end Sending

/-- A server that delivers an answer is heard wherever requests can be sent. -/
theorem Hears.of_delivers {status : Nat} {body : Bytes}
    (somewhere : endpoint.address? = some address) (delivers : behaviour.Delivers status body)
    : endpoint.Hears behaviour status body :=
  ⟨_, _, ⟨address, 0, somewhere, .here, Nat.zero_le _⟩, delivers⟩

/-- Who gets an answer has found somebody who listens. -/
theorem Hears.listens {status : Nat} {body : Bytes} (hears : endpoint.Hears behaviour status body)
    : behaviour ≠ .unreachable ∧ ∃ address, endpoint.address? = some address := by
  obtain ⟨place, last, ⟨address, count, somewhere, leads, -⟩, delivers⟩ := hears
  refine ⟨?_, address, somewhere⟩
  rintro rfl
  cases leads
  cases delivers

end Endpoint

end SatClient
