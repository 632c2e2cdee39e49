import SatClient.Formula.Basic
import SatClient.Log
import SatClient.Outcome.Basic

/-! The place for the latest result of several submissions. Every submission gets a number,
and an answer is kept only when no later submission has been made, so that answers out of
order never replace a fresher result.
-/

namespace SatClient

/-- An answered submission. -/
structure Resolved where
  id : Nat
  formula : Formula
  outcome : Outcome
  deriving DecidableEq

/-- How many submissions there were, and the result on display. -/
structure Tracker where
  issued : Nat
  latest : Option Resolved
  deriving DecidableEq

namespace Tracker

def empty : Tracker := ⟨0, none⟩

def submit (tracker : Tracker) : Nat × Tracker :=
  (tracker.issued + 1, { tracker with issued := tracker.issued + 1 })

/-- The number of the latest submission, if there was any. -/
def current (tracker : Tracker) : Option Nat :=
  if tracker.issued = 0 then none else some tracker.issued

/-- Offer an answer: whether it is kept, and the tracker after it. -/
def resolve (tracker : Tracker) (answer : Resolved) : Bool × Tracker :=
  if tracker.current = some answer.id then (true, { tracker with latest := some answer })
  else (false, tracker)

def staleEvent (id : Nat) : Log.Event :=
  ⟨.debug, .tracker, "discarding stale response", [("submission", toString id)]⟩

def resolveTrail (tracker : Tracker) (answer : Resolved) : Log.Trail :=
  if (tracker.resolve answer).1 then [] else [staleEvent answer.id]

end Tracker

end SatClient
