import SatClient.Forwarder
import SatClient.Proofs.Json.Skipping
import SatClient.Proofs.Json.Writing

/-! What a browser asks the forwarder for. A body asks for the value of its last formula member,
unless that value counts as nothing.
-/

namespace SatClient.Forwarder

open Json (Value)
open Utf8 (Bytes)

/-- A request to the service of the forwarder. -/
structure IsPosted (request : Http.Request) : Prop where
  method : request.method = "POST"
  path : pathOf request.path = servicePath

/-- A body is a JSON text, and its value does not nest too deep to be read. -/
structure Reads (body : Bytes) (raw : Value) : Prop where
  holds : Json.Holds Json.strict raw body
  shallow : raw.nesting ≤ Json.maxNesting

/-- Bytes are a JSON text, of whatever depth. -/
def IsJson (bytes : Bytes) : Prop := ∃ v, Json.Holds Json.lax v bytes

/-- The values that count as nothing where a program tests them. -/
inductive Falsy : Value → Prop
  | null : Falsy .null
  | false : Falsy (.bool false)
  | zero {n} (isZero : n.isZero = true) : Falsy (.number n)
  | empty : Falsy (.string "")

/-- A body asks for a value: it is an object whose last formula member has that value, and the value
counts.
-/
inductive Requests (body : Bytes) : Value → Prop
  | formula {members v} (reads : Reads body (.object members))
    (last : Json.IsLast "formula" v members) (truthy : ¬ Falsy v) : Requests body v

-----------------------------------------------------------------------------------------
-- Reading
-----------------------------------------------------------------------------------------

theorem Reads.parse {body : Bytes} {raw : Value} (reads : Reads body raw)
    : Json.parse body = .ok raw.settled :=
  Json.parse_eq_ok_iff.mpr ⟨raw, reads.holds, reads.shallow, rfl⟩

theorem exists_reads_of_parse {body : Bytes} {v : Value} (read : Json.parse body = .ok v)
    : ∃ raw, Reads body raw ∧ raw.settled = v := by
  obtain ⟨raw, holds, shallow, settled⟩ := Json.parse_eq_ok_iff.mp read
  exact ⟨raw, ⟨holds, shallow⟩, settled⟩

theorem isTruthy_eq_true_iff {v : Value} : v.isTruthy = true ↔ ¬ Falsy v := by
  constructor
  · rintro truthy (_ | _ | isZero | _)
    · cases truthy
    · cases truthy
    · rw [Value.isTruthy, isZero] at truthy
      cases truthy
    · cases truthy
  · intro counts
    cases v with
    | null => exact absurd .null counts
    | bool b =>
        cases b with
        | false => exact absurd .false counts
        | true => rfl
    | number n =>
        cases isZero : n.isZero with
        | false =>
            rw [Value.isTruthy, isZero]
            rfl
        | true => exact absurd (.zero isZero) counts
    | string s =>
        cases isEmpty : s.isEmpty with
        | false =>
            rw [Value.isTruthy, isEmpty]
            rfl
        | true =>
            rw [String.isEmpty_iff] at isEmpty
            subst isEmpty
            exact absurd .empty counts
    | array items => rfl
    | object members => rfl

/-- A value counts before it is settled if it does so after. -/
theorem isTruthy_settled (v : Value) : v.settled.isTruthy = v.isTruthy := by
  cases v <;> rfl

theorem Requests.requestedFormula {body : Bytes} {v : Value} (asks : Requests body v)
    : ∃ request,
        Json.parse body = .ok request ∧ Forwarder.requestedFormula request = some v.settled := by
  obtain ⟨reads, last, truthy⟩ := asks
  refine ⟨_, reads.parse, ?_⟩
  have counts : v.settled.isTruthy = true := by
    rw [isTruthy_settled]
    exact isTruthy_eq_true_iff.mpr truthy
  rw [Forwarder.requestedFormula, Value.get?_settled, Json.lookup?_reverse_eq_some_iff.mpr last,
    Option.map_some, Option.filter_some, if_pos counts]

theorem Reads.requests {body : Bytes} {raw v : Value} (reads : Reads body raw)
    (found : Forwarder.requestedFormula raw.settled = some v)
    : ∃ w, Requests body w := by
  obtain ⟨isMember, counts⟩ := Option.filter_eq_some_iff.mp found
  cases raw with
  | object members =>
      rw [Value.get?_settled] at isMember
      obtain ⟨w, last, rfl⟩ := Option.map_eq_some_iff.mp isMember
      rw [isTruthy_settled] at counts
      exact ⟨w, .formula reads (Json.lookup?_reverse_eq_some_iff.mp last)
        (isTruthy_eq_true_iff.mp counts)⟩
  | _ => cases isMember

end SatClient.Forwarder
