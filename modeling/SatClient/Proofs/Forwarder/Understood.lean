import SatClient.Proofs.Forwarder.Contract
import SatClient.Proofs.Solver.ResponseText
import SatClient.Proofs.Solver.Verdict

/-! The forwarder hides no answer that a client understands. The two look at a reply in different
ways: a client reads an answer from it, the forwarder only passes over it to see that it is JSON.
Everything that can be read as an answer can be passed over as well, so whoever asks through the
forwarder understands the same.
-/

namespace SatClient.Forwarder

open Http (Behaviour Request Traced)
open Json (Value)
open Utf8 (Bytes)

theorem isJson_of_decode {body : Bytes} {r : Response} (understood : Response.decode body = .ok r)
    : IsJson body :=
  (Response.decode_eq_ok_iff.mp understood).exists_holds

/-- A reply means the same answer to a client that asks the solver itself and to one that asks
through the forwarder.
-/
structure KeepsMeaning (status : Nat) (body : Bytes) (r : Response) : Prop where
  /-- A client that asks the solver itself gets the answer. -/
  direct
    : ∀ {endpoint : Endpoint} {behaviour : Behaviour} {text : String},
        endpoint.Hears behaviour status body → (endpoint.trySolve behaviour text).value = .ok r
  /-- The reply is passed on with its status and its bytes. -/
  passed : passThrough ⟨status, body⟩ = .pure ⟨status, some "application/json", none, body⟩
  /-- So it is for every request that asks for something, and its answer reads as the same. -/
  forwarded
    : ∀ {endpoint : Endpoint} {behaviour : Behaviour} {request : Request} {v : Value},
        IsPosted request
        → Requests request.body v
        → request.body.length ≤ maxLength
        → endpoint.Hears behaviour status body
        → ∃ answer,
            (handle endpoint behaviour request).value = answer
            ∧ answer.status = status
            ∧ answer.body = body
            ∧ Endpoint.readReply (.ok ⟨answer.status, .ok answer.body⟩) = .ok r

/-- Every reply that a client understands keeps its meaning on the way through the forwarder. -/
theorem keepsMeaning {status : Nat} {body : Bytes} {r : Response} (successful : Successful status)
    (understood : Response.decode body = .ok r)
    : KeepsMeaning status body r := by
  have isJson := isJson_of_decode understood
  have reads : Endpoint.readReply (.ok ⟨status, .ok body⟩) = .ok r := by
    simp only [Endpoint.readReply, isSuccess_iff.mpr successful, Bool.not_true, Bool.false_eq_true,
      if_false, understood]
    rfl
  constructor
  · intro endpoint behaviour text hears
    exact Answered.readReply _ ⟨status, body, hears, successful, understood⟩
  · exact passThrough_of_isJson isJson
  · intro endpoint behaviour request v isPosted asks fits hears
    refine ⟨⟨status, some "application/json", none, body⟩, ?_, rfl, rfl, reads⟩
    rw [handle_of_isPosted isPosted fits]
    exact asks.value_solve hears isJson

/-- An answer with a member that nobody asks for: a number too large to be kept, and half of a
surrogate pair.
-/
def oddAnswer : Bytes := Utf8.ofString "\x7b\"n\":[1e999,\"\\ud800\"],\"error\":\"no\"\x7d"

/-- That member is passed over on both ways. -/
theorem keepsMeaning_skipped
    : Response.decode oddAnswer = .ok ⟨none, some "no"⟩
      ∧ KeepsMeaning 203 oddAnswer ⟨none, some "no"⟩ := by
  have understood : Response.decode oddAnswer = .ok ⟨none, some "no"⟩ :=
    eq_ok_of_toOption (by decide +kernel)
  exact ⟨understood, keepsMeaning ⟨by decide, by decide⟩ understood⟩

end SatClient.Forwarder
