import Mathlib.Data.List.Induction
import SatClient.Session.Tracker

/-! The tracker told from its history alone. Submissions get the numbers 1, 2, 3 and so on; an
answer is kept when its number is that of the latest submission, whoever gave the number out and
however often it was offered; and what is on display is the answer kept last, so that the number
on display never falls.
-/

namespace SatClient.Tracker

/-- What is done to a tracker. An answer that is offered may carry any number. -/
inductive Operation where
  | submit
  | resolve (answer : Resolved)
  deriving DecidableEq

/-- What an operation returns: the number of a submission, or whether an answer was kept. -/
inductive Reply where
  | number (id : Nat)
  | kept (isKept : Bool)
  deriving DecidableEq

def perform (tracker : Tracker) : Operation → Tracker × Reply
  | .submit =>
      let (id, tracker) := tracker.submit
      (tracker, .number id)
  | .resolve answer =>
      let (isKept, tracker) := tracker.resolve answer
      (tracker, .kept isKept)

/-- Do operations one after another. -/
def performAll (tracker : Tracker) : List Operation → Tracker × List Reply
  | [] => (tracker, [])
  | operation :: rest =>
      let (tracker, reply) := tracker.perform operation
      let (tracker, replies) := performAll tracker rest
      (tracker, reply :: replies)

def after (history : List Operation) : Tracker := (empty.performAll history).1

def replies (history : List Operation) : List Reply := (empty.performAll history).2

/-- How many submissions were made. -/
def submits (history : List Operation) : Nat := history.count .submit

/-- The answer that an operation offered, if the reply says that it was kept. -/
def keptAnswer? : Operation × Reply → Option Resolved
  | (.resolve answer, .kept true) => some answer
  | _ => none

/-- The answers that were kept, in order. -/
def keptAnswers (history : List Operation) : List Resolved :=
  (history.zip (replies history)).filterMap keptAnswer?

-----------------------------------------------------------------------------------------
-- One operation
-----------------------------------------------------------------------------------------

/-- An answer is kept when it is for the latest submission; otherwise nothing changes. -/
theorem perform_resolve_cases (tracker : Tracker) (answer : Resolved)
    : (answer.id = tracker.issued
        ∧ tracker.issued ≠ 0
        ∧ tracker.perform (.resolve answer)
          = ({ tracker with latest := some answer }, .kept true))
      ∨ (¬ (answer.id = tracker.issued ∧ tracker.issued ≠ 0)
        ∧ tracker.perform (.resolve answer) = (tracker, .kept false)) := by
  have isCurrent : tracker.current = some answer.id
      ↔ answer.id = tracker.issued ∧ tracker.issued ≠ 0 := by
    rw [current]
    split
    next none => simp [none]
    next some => simp [some, eq_comm]
  by_cases latest : answer.id = tracker.issued ∧ tracker.issued ≠ 0
  · left
    refine ⟨latest.1, latest.2, ?_⟩
    simp only [perform, resolve, if_pos (isCurrent.mpr latest)]
  · right
    refine ⟨latest, ?_⟩
    simp only [perform, resolve, if_neg (fun same => latest (isCurrent.mp same))]

theorem performAll_append (tracker : Tracker) (front back : List Operation)
    : tracker.performAll (front ++ back)
      = (((tracker.performAll front).1.performAll back).1,
          (tracker.performAll front).2 ++ ((tracker.performAll front).1.performAll back).2) := by
  induction front generalizing tracker with
  | nil => rfl
  | cons operation rest ih => simp only [List.cons_append, performAll, ih]

/-- What is done later does not reach back: the state in between is that after the first part. -/
theorem after_append_singleton (history : List Operation) (operation : Operation)
    : after (history ++ [operation]) = ((after history).perform operation).1 := by
  simp only [after, performAll_append, performAll]

theorem replies_append_singleton (history : List Operation) (operation : Operation)
    : replies (history ++ [operation])
      = replies history ++ [((after history).perform operation).2] := by
  simp only [replies, after, performAll_append, performAll]

theorem length_replies (history : List Operation)
    : (replies history).length = history.length := by
  induction history using List.reverseRecOn with
  | nil => rfl
  | append_singleton history operation ih => simp [replies_append_singleton, ih]

/-- The reply to an operation is the one it gets in the state that the operations before it led
to.
-/
theorem getElem?_replies (front : List Operation) (operation : Operation)
    (rest : List Operation)
    : (replies (front ++ operation :: rest))[front.length]?
      = some ((after front).perform operation).2 := by
  have here : (replies front).length = front.length := length_replies front
  rw [replies] at here
  simp only [replies, after, performAll_append, performAll]
  rw [List.getElem?_append_right (Nat.le_of_eq here), here, Nat.sub_self,
    List.getElem?_cons_zero]

theorem keptAnswers_append_singleton (history : List Operation) (operation : Operation)
    : keptAnswers (history ++ [operation])
      = keptAnswers history
        ++ (keptAnswer? (operation, ((after history).perform operation).2)).toList := by
  rw [keptAnswers, replies_append_singleton, List.zip_append (length_replies history).symm,
    List.filterMap_append]
  cases told : keptAnswer? (operation, ((after history).perform operation).2) <;>
    simp [told, keptAnswers]

-----------------------------------------------------------------------------------------
-- Whole histories
-----------------------------------------------------------------------------------------

/-- The tracker after a history is in the state that the history accounts for. -/
structure Accounted (history : List Operation) : Prop where
  issued : (after history).issued = submits history
  latest : (after history).latest = (keptAnswers history).getLast?
  positive : ∀ kept ∈ keptAnswers history, 0 < kept.id
  /-- The numbers that were kept rise, and none exceeds the number of submissions. -/
  rising : ((keptAnswers history).map Resolved.id ++ [submits history]).Pairwise (· ≤ ·)

theorem Accounted.submit {history : List Operation} (accounted : Accounted history)
    : Accounted (history ++ [.submit]) := by
  have done : after (history ++ [.submit])
      = { after history with issued := (after history).issued + 1 } :=
    after_append_singleton history .submit
  have kept : keptAnswers (history ++ [.submit]) = keptAnswers history := by
    rw [keptAnswers_append_singleton]
    exact List.append_nil _
  have more : submits (history ++ [.submit]) = submits history + 1 := by simp [submits]
  obtain ⟨issued, latest, positive, rising⟩ := accounted
  constructor
  · rw [done, more, issued]
  · rw [done, kept, latest]
  · rw [kept]
    exact positive
  · rw [List.pairwise_append] at rising
    rw [kept, more, List.pairwise_append]
    refine ⟨rising.1, List.pairwise_singleton _ _, ?_⟩
    intro id member count isCount
    have below := rising.2.2 id member _ (List.mem_singleton_self _)
    rw [List.mem_singleton] at isCount
    omega

theorem Accounted.resolve {history : List Operation} (accounted : Accounted history)
    (answer : Resolved)
    : Accounted (history ++ [.resolve answer]) := by
  have done := after_append_singleton history (.resolve answer)
  have kept := keptAnswers_append_singleton history (.resolve answer)
  have same : submits (history ++ [.resolve answer]) = submits history := by simp [submits]
  obtain ⟨issued, latest, positive, rising⟩ := accounted
  rcases (after history).perform_resolve_cases answer with
    ⟨isLatest, some, replaced⟩ | ⟨_, unchanged⟩
  · -- The answer has the greatest number there can be, so that the numbers still rise.
    rw [replaced] at done kept
    simp only [keptAnswer?, Option.toList_some] at kept
    constructor
    · rw [done, same, issued]
    · rw [done, kept, List.getLast?_concat]
    · intro other member
      rw [kept] at member
      rcases List.mem_append.mp member with earlier | here
      · exact positive other earlier
      · rw [List.mem_singleton.mp here, isLatest]
        exact Nat.pos_of_ne_zero some
    · rw [kept, same, List.map_append, List.map_singleton, isLatest, issued, List.pairwise_append]
      refine ⟨rising, List.pairwise_singleton _ _, ?_⟩
      intro id member count isCount
      rw [List.mem_singleton.mp isCount]
      rcases List.mem_append.mp member with earlier | here
      · exact (List.pairwise_append.mp rising).2.2 id earlier _ (List.mem_singleton_self _)
      · exact Nat.le_of_eq (List.mem_singleton.mp here)
  · rw [unchanged] at done kept
    simp only [keptAnswer?, Option.toList_none, List.append_nil] at kept
    constructor
    · rw [done, same, issued]
    · rw [done, kept, latest]
    · rw [kept]
      exact positive
    · rw [kept, same]
      exact rising

/-- Every history accounts for the state it leads to, by induction on its operations from the
first to the last.
-/
theorem accounted (history : List Operation) : Accounted history := by
  induction history using List.reverseRecOn with
  | nil => exact ⟨rfl, rfl, by simp [keptAnswers], List.pairwise_singleton _ _⟩
  | append_singleton history operation ih =>
      cases operation with
      | submit => exact ih.submit
      | resolve answer => exact ih.resolve answer

theorem current_after (history : List Operation)
    : (after history).current = if submits history = 0 then none else some (submits history) := by
  rw [current, (accounted history).issued]

/-- What is on display has the number of a submission that was made. -/
theorem latest_bounds {history : List Operation} {shown : Resolved}
    (isShown : (after history).latest = some shown)
    : 0 < shown.id ∧ shown.id ≤ submits history := by
  rw [(accounted history).latest] at isShown
  have member := List.mem_of_getLast? isShown
  have rising := List.pairwise_append.mp (accounted history).rising
  exact ⟨(accounted history).positive shown member,
    rising.2.2 _ (List.mem_map_of_mem member) _ (List.mem_singleton_self _)⟩

/-- A number that was given out is at most the number of submissions. -/
theorem number_le_submits {history : List Operation} {id : Nat}
    (given : .number id ∈ replies history)
    : id ≤ submits history := by
  induction history using List.reverseRecOn with
  | nil => cases given
  | append_singleton history operation ih =>
      have fewer : submits history ≤ submits (history ++ [operation]) := by simp [submits]
      rw [replies_append_singleton] at given
      rcases List.mem_append.mp given with earlier | here
      · exact Nat.le_trans (ih earlier) fewer
      · cases operation with
        | submit =>
            cases List.mem_singleton.mp here
            simp [(accounted history).issued, submits]
        | resolve answer => cases List.mem_singleton.mp here

theorem keptAnswers_append (front back : List Operation)
    : ∃ more, keptAnswers (front ++ back) = keptAnswers front ++ more := by
  induction back using List.reverseRecOn with
  | nil => exact ⟨[], by simp⟩
  | append_singleton back operation ih =>
      obtain ⟨more, same⟩ := ih
      exact ⟨_, by rw [← List.append_assoc, keptAnswers_append_singleton, same,
        List.append_assoc]⟩

/-- The number on display never falls: the answers kept later have no smaller ones. -/
theorem exists_latest_of_append {front back : List Operation} {old : Resolved}
    (shown : (after front).latest = some old)
    : ∃ new, (after (front ++ back)).latest = some new ∧ old.id ≤ new.id := by
  obtain ⟨more, same⟩ := keptAnswers_append front back
  rw [(accounted front).latest] at shown
  rw [(accounted (front ++ back)).latest, same]
  cases more using List.reverseRecOn with
  | nil => exact ⟨old, by rw [List.append_nil, shown], Nat.le_refl _⟩
  | append_singleton more new =>
      refine ⟨new, by rw [← List.append_assoc, List.getLast?_concat], ?_⟩
      have rising := (accounted (front ++ back)).rising
      rw [same, ← List.append_assoc, List.map_append, List.map_append] at rising
      have ordered := (List.pairwise_append.mp (List.pairwise_append.mp rising).1).2.2
      have member := List.mem_map_of_mem (f := Resolved.id) (List.mem_of_getLast? shown)
      exact ordered old.id (List.mem_append_left _ member) new.id (by simp)

/-- A tracker that does what its history says, at the end of it. As every part of a history from
its start is a history of its own, it does so at every moment.
-/
structure KeepsHistory (history : List Operation) : Prop where
  /-- The submissions get the numbers 1, 2, 3 and so on. -/
  numbered
    : ∀ {front rest},
        history = front ++ .submit :: rest
        → (replies history)[front.length]? = some (.number (submits front + 1))
  /-- The current number is that of the latest submission. -/
  current
    : (after history).current
      = if submits history = 0 then none else some (submits history)
  /-- An answer is kept exactly when it is for the latest submission before it. -/
  judged
    : ∀ {front answer rest},
        history = front ++ .resolve answer :: rest
        → (replies history)[front.length]?
          = some (.kept (decide (answer.id = submits front ∧ submits front ≠ 0)))
  /-- The answer on display is the one that was kept last. -/
  latest : (after history).latest = (keptAnswers history).getLast?
  /-- An answer that was not kept has left the current number and the display alone. -/
  dropped
    : ∀ {front answer rest},
        history = front ++ .resolve answer :: rest
        → (replies history)[front.length]? = some (.kept false)
        → (after (front ++ [.resolve answer])).current = (after front).current
          ∧ (after (front ++ [.resolve answer])).latest = (after front).latest
  /-- What was on display is only ever replaced by an answer with no smaller number. -/
  rising
    : ∀ {front rest old},
        history = front ++ rest
        → (after front).latest = some old
        → ∃ new, (after history).latest = some new ∧ old.id ≤ new.id
  /-- The number on display does not exceed the current one. -/
  bounded
    : ∀ {shown},
        (after history).latest = some shown
        → ∃ newest, (after history).current = some newest ∧ shown.id ≤ newest
  /-- As long as there are fewer submissions, all numbers given out are words of 64 bits. -/
  words : submits history < Nat.pow 2 64 → ∀ {id}, .number id ∈ replies history → id < Nat.pow 2 64

/-- Every tracker does what its history says. -/
theorem keepsHistory (history : List Operation) : KeepsHistory history := by
  constructor
  · rintro front rest rfl
    rw [getElem?_replies, ← (accounted front).issued]
    rfl
  · exact current_after history
  · rintro front answer rest rfl
    rw [getElem?_replies, ← (accounted front).issued]
    rcases (after front).perform_resolve_cases answer with
      ⟨isLatest, some, replaced⟩ | ⟨notLatest, unchanged⟩
    · rw [replaced, decide_eq_true ⟨isLatest, some⟩]
    · rw [unchanged, decide_eq_false notLatest]
  · exact (accounted history).latest
  · rintro front answer rest rfl dropped
    rw [getElem?_replies] at dropped
    rw [after_append_singleton]
    rcases (after front).perform_resolve_cases answer with ⟨_, _, replaced⟩ | ⟨_, unchanged⟩
    · rw [replaced] at dropped
      cases dropped
    · rw [unchanged]
      exact ⟨rfl, rfl⟩
  · rintro front rest old rfl shown
    exact exists_latest_of_append shown
  · intro shown isShown
    have bounds := latest_bounds isShown
    have some : submits history ≠ 0 := by omega
    exact ⟨submits history, by rw [current_after, if_neg some], bounds.2⟩
  · intro few id given
    exact Nat.lt_of_le_of_lt (number_le_submits given) few

/-- An early, a foreign and a repeated answer. -/
example (formula : Formula) (outcome : Outcome)
    : replies
        [.submit, .submit, .resolve ⟨1, formula, outcome⟩, .resolve ⟨7, formula, outcome⟩,
          .resolve ⟨2, formula, outcome⟩, .resolve ⟨2, formula, outcome⟩]
      = [.number 1, .number 2, .kept false, .kept false, .kept true, .kept true] :=
  rfl

end SatClient.Tracker
