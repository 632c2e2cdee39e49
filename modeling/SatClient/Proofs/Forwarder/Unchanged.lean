import SatClient.Proofs.Forwarder.Contract

/-! A formula reaches the solver as it was written. However a body spells it, the forwarder sends
the value on, and a text is sent in the same bytes as by a client that asks the solver itself.
-/

namespace SatClient

open Http (Behaviour Request)
open Json (Value)
open Utf8 (Bytes)

-----------------------------------------------------------------------------------------
-- One member of an object
-----------------------------------------------------------------------------------------

namespace Json.Value

theorem nesting_le_of_mem {name : String} {v : Value} {members : List (String × Value)}
    (isIn : (name, v) ∈ members)
    : v.nesting ≤ nestingOfMembers members := by
  induction members with
  | nil => cases isIn
  | cons member others ih =>
      rcases List.mem_cons.mp isIn with rfl | isIn
      · exact Nat.le_max_left ..
      · exact Nat.le_trans (ih isIn) (Nat.le_max_right ..)

theorem mem_numbersOfMembers {name : String} {v : Value} {members : List (String × Value)}
    {n : Number} (isIn : (name, v) ∈ members) (isNumber : n ∈ v.numbers)
    : n ∈ numbersOfMembers members := by
  induction members with
  | nil => cases isIn
  | cons member others ih =>
      rcases List.mem_cons.mp isIn with rfl | isIn
      · exact List.mem_append_left _ isNumber
      · exact List.mem_append_right _ (ih isIn)

end Json.Value

/-- A settled value of whole numbers is read back from the body of a request for it, one level of
brackets deeper.
-/
theorem parse_requestBody {v : Value} (isWhole : v.IsWhole) (fits : v.nesting < Json.maxNesting)
    (isSettled : v.settled = v)
    : Json.parse (requestBody v) = .ok (.object [("prop", v)]) := by
  refine Json.parse_compact ?_ ?_ ?_
  · intro n isIn
    rcases List.mem_append.mp isIn with isIn | isIn
    · exact isWhole n isIn
    · cases isIn
  · exact Nat.succ_le_of_lt (Nat.max_lt.mpr ⟨fits, by decide⟩)
  · change Value.object [("prop", v.settled)] = _
    rw [isSettled]

namespace Forwarder

theorem Requests.isIn {body : Bytes} {v : Value} (asks : Requests body v)
    : ∃ members, Reads body (.object members) ∧ ("formula", v) ∈ members := by
  obtain ⟨reads, ⟨before, after, rfl, -⟩, -⟩ := asks
  exact ⟨_, reads, List.mem_append_right _ (List.mem_cons_self ..)⟩

/-- The formula of a body leaves room for one more level of brackets. -/
theorem Requests.nesting_lt {body : Bytes} {v : Value} (asks : Requests body v)
    : v.settled.nesting < Json.maxNesting := by
  obtain ⟨members, reads, isIn⟩ := asks.isIn
  calc v.settled.nesting
      ≤ v.nesting := Value.nesting_settled_le v
    _ ≤ Value.nestingOfMembers members := Value.nesting_le_of_mem isIn
    _ < (Value.object members).nesting := Nat.lt_succ_self _
    _ ≤ Json.maxNesting := reads.shallow

/-- The numbers of a formula that are no floating-point numbers fit into 64 bits. -/
theorem Requests.isWhole {body : Bytes} {v : Value} (asks : Requests body v)
    (noFloat : v.settled.HasNoFloat)
    : v.settled.IsWhole := by
  obtain ⟨members, reads, isIn⟩ := asks.isIn
  obtain ⟨⟨before, spelled, after⟩, -⟩ := reads
  intro n isNumber
  have isThere : n ∈ (Value.object members).numbers :=
    Value.mem_numbersOfMembers isIn (Value.mem_numbers_of_settled isNumber)
  rcases spelled.number_cases isThere with isWhole | ⟨x, rfl⟩
  · exact isWhole
  · exact absurd isNumber (noFloat x)

/-- What becomes of the formula that was read from a body. -/
structure ForwardsUnchanged (endpoint : Endpoint) (behaviour : Behaviour) (request : Request)
    (v : Value) : Prop where
  /-- It is the formula member of what the body is read as. -/
  read : ∃ decoded, Json.parse request.body = .ok decoded ∧ decoded.get? "formula" = some v
  /-- It is sent in one request, and nowhere but to an endpoint that takes requests. -/
  sent
    : request.body.length ≤ maxLength
      → endpoint.Asks behaviour v (handle endpoint behaviour request)
  /-- Only with a body that is too long it is not sent at all. -/
  unsent
    : maxLength < request.body.length → (handle endpoint behaviour request).SendsNothing
  /-- Whatever is sent carries it, for a body of any length. -/
  carried
    : ∀ sent ∈ (handle endpoint behaviour request).sent,
        sent = ⟨"POST", endpoint.place.target, some "application/json", requestBody v⟩
  /-- Whatever a server gets is the request for it, or says nothing. -/
  got
    : ∀ got ∈ (handle endpoint behaviour request).received,
        got.Repeats
          ⟨"POST", endpoint.place.target, some "application/json", requestBody v⟩
  /-- The body of that request is read as an object with the formula as its only member. -/
  readBack : Json.parse (requestBody v) = .ok (.object [("prop", v)])
  /-- A text that is sent is sent in the same bytes by a client that asks about it. -/
  alike
    : ∀ {formula : Formula},
        v = .string formula.text
        → (handle endpoint behaviour request).sent ≠ []
        → (endpoint.solve behaviour formula).sent = (handle endpoint behaviour request).sent
          ∧ (endpoint.solve behaviour formula).received
            = (handle endpoint behaviour request).received

/-- A formula without floating-point numbers is forwarded unchanged, however it is spelled. -/
theorem forwardsUnchanged (endpoint : Endpoint) (behaviour : Behaviour) {request : Request}
    {v : Value} (isPosted : IsPosted request) (asks : Requests request.body v)
    (noFloat : v.settled.HasNoFloat)
    : ForwardsUnchanged endpoint behaviour request v.settled := by
  have sent (fits : request.body.length ≤ maxLength)
      : endpoint.Asks behaviour v.settled (handle endpoint behaviour request) := by
    rw [handle_of_isPosted isPosted fits, solve_of_requests asks]
    exact asks_forwardFormula endpoint behaviour v.settled
  have unsent (long : maxLength < request.body.length)
      : (handle endpoint behaviour request).SendsNothing :=
    (declines_of_long isPosted long).nothing
  have sentOrNothing
      : endpoint.Asks behaviour v.settled (handle endpoint behaviour request)
        ∨ (handle endpoint behaviour request).SendsNothing :=
    (Nat.lt_or_ge maxLength request.body.length).symm.imp sent unsent
  constructor
  · obtain ⟨decoded, read, found⟩ := asks.requestedFormula
    exact ⟨decoded, read, (Option.filter_eq_some_iff.mp found).1⟩
  · exact sent
  · exact unsent
  · intro other isSent
    rcases sentOrNothing with asked | nothing
    · exact asked.eq_of_mem_sent isSent
    · rw [nothing.sent] at isSent
      cases isSent
  · intro got isGot
    rcases sentOrNothing with asked | nothing
    · exact asked.repeats isGot
    · rw [nothing.received] at isGot
      cases isGot
  · exact parse_requestBody (asks.isWhole noFloat) asks.nesting_lt (Value.settled_settled v)
  · intro formula isText something
    rcases sentOrNothing with asked | nothing
    · rw [isText] at asked
      exact (endpoint.asks_solve behaviour formula).same asked
    · exact absurd nothing.sent something

/-- A text with a tab and a letter beyond ASCII is forwarded from the last of two members. -/
theorem forwardsUnchanged_escaped
    : ForwardsUnchanged
        ⟨.http, ⟨⟨[], []⟩, .ipv4 ⟨0x7F000001⟩, some 10101, ["marina".toList], none, none⟩, .inl rfl⟩
        .closes
        ⟨"POST", "/api/solve", none,
          Utf8.ofString "\x7b\"formula\":[-1],\"formula\":\"a &\\té\"\x7d"⟩
        (.string "a &\té") := by
  have written
      : Utf8.ofString "\x7b\"formula\":[-1],\"formula\":\"a &\\té\"\x7d"
        = Utf8.encode
            (Value.object
              [("formula", .array [.number (.negative 1)]),
                ("formula", .string "a &\té")]).compact := by
    decide
  have asks
      : Requests (Utf8.ofString "\x7b\"formula\":[-1],\"formula\":\"a &\\té\"\x7d")
          (.string "a &\té") := by
    rw [written]
    refine .formula ⟨Json.holds_compact ?_, by decide⟩
      ⟨[("formula", .array [.number (.negative 1)])], [], rfl, nofun⟩
      (isTruthy_eq_true_iff.mp (by decide))
    intro n isIn
    cases List.mem_singleton.mp isIn
    exact .negative (by decide) (by decide)
  have noFloat : (Value.string "a &\té").settled.HasNoFloat := fun x isIn => by cases isIn
  exact forwardsUnchanged _ _ ⟨rfl, by decide⟩ asks noFloat

end Forwarder

end SatClient
