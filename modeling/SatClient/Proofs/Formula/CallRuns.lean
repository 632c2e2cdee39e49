import Mathlib.Logic.Relation
import SatClient.Formula.Calls
import SatClient.Proofs.Bind

/-! What the calls of the recognizer come to. From where a procedure is entered, step after step
leads to its return with what the recognizer reads there, or to the fault that the recognizer finds;
so a run always comes to an end, and with the same result.
-/

namespace SatClient.Calls

open Recognizer (Progress chain equivalences formula more negated primary)
open State (enter reach refuse)

variable {tokens : List PlacedToken} {state middle last : State} {start memory : Memory}
  {call : Call} {callers outer : List Call} {depth : Nat}

/-- Steps lead from one state to another. -/
abbrev Leads (tokens : List PlacedToken) : State → State → Prop :=
  Relation.ReflTransGen fun state next => step tokens state = next

/-- Steps lead from a state to what a result says. The callers go on with what has been read, at the
depth at which reading started and not before it; or the tokens are refused.
-/
def Ends (tokens : List PlacedToken) (state : State) (start : Memory) (callers : List Call)
    : Except SyntaxError Progress → Prop
  | .ok progress =>
      ∃ memory,
        Leads tokens state ⟨memory, callers, .running⟩
        ∧ memory.progress tokens = progress
        ∧ memory.depth = start.depth
        ∧ start.position ≤ memory.position
  | .error fault => ∃ memory calls, Leads tokens state ⟨memory, calls, .refused fault⟩

-----------------------------------------------------------------------------------------
-- Ends
-----------------------------------------------------------------------------------------

theorem Ends.of_leads {result : Except SyntaxError Progress} (leads : Leads tokens state middle)
    (ends : Ends tokens middle start callers result)
    : Ends tokens state start callers result := by
  cases result with
  | error fault =>
      obtain ⟨memory, calls, others⟩ := ends
      exact ⟨memory, calls, leads.trans others⟩
  | ok progress =>
      obtain ⟨memory, others, facts⟩ := ends
      exact ⟨memory, leads.trans others, facts⟩

theorem Ends.of_step {result : Except SyntaxError Progress}
    (ends : Ends tokens (step tokens state) start callers result)
    : Ends tokens state start callers result :=
  ends.of_leads (.single rfl)

/-- What started later started at least as far on. -/
theorem Ends.earlier {result : Except SyntaxError Progress} {earlier : Memory}
    (ends : Ends tokens state start callers result) (same : start.depth = earlier.depth)
    (before : earlier.position ≤ start.position)
    : Ends tokens state earlier callers result := by
  cases result with
  | error fault => exact ends
  | ok progress =>
      obtain ⟨memory, leads, isProgress, atDepth, later⟩ := ends
      exact ⟨memory, leads, isProgress, atDepth.trans same, Nat.le_trans before later⟩

/-- What comes to an end for its caller, and what the caller goes on with. -/
theorem Ends.bind {first : Except SyntaxError Progress} {next : Recognizer.Step} {whole : Memory}
    (ends : Ends tokens state start outer first)
    (others
      : ∀ memory : Memory,
          memory.depth = start.depth
          → start.position ≤ memory.position
          → Ends tokens ⟨memory, outer, .running⟩ whole callers (next (memory.progress tokens)))
    : Ends tokens state whole callers (first >>= next) := by
  cases first with
  | error fault => exact ends
  | ok progress =>
      obtain ⟨memory, leads, rfl, atDepth, later⟩ := ends
      exact (others memory atDepth later).of_leads leads

/-- A caller that is about to return when it is returned to does so. -/
theorem Ends.of_done {result : Except SyntaxError Progress}
    (ends : Ends tokens state start ({ call with point := .done } :: callers) result)
    : Ends tokens state start callers result := by
  cases result with
  | error fault => exact ends
  | ok progress =>
      obtain ⟨memory, leads, facts⟩ := ends
      exact ⟨memory, leads.tail rfl, facts⟩

theorem ends_refuse (start : Memory) (fault : SyntaxError)
    : Ends tokens (refuse memory call callers fault) start callers (.error fault) :=
  ⟨memory, call :: callers, .refl⟩

/-- A call that is about to return does so. -/
theorem ends_done (start : Memory) (atDepth : memory.depth = start.depth)
    (later : start.position ≤ memory.position)
    : Ends tokens (reach memory call .done callers) start callers
        (.ok (memory.progress tokens)) :=
  ⟨memory, .single rfl, rfl, atDepth, later⟩

-----------------------------------------------------------------------------------------
-- The token that is looked at
-----------------------------------------------------------------------------------------

theorem next?_eq_head? (memory : Memory) (tokens : List PlacedToken)
    : memory.next? tokens = (memory.progress tokens).rest.head? :=
  List.head?_drop.symm

theorem rest_advance {next : PlacedToken} {rest : List PlacedToken}
    (isRest : (memory.progress tokens).rest = next :: rest)
    : tokens.drop memory.advance.position = rest := by
  have tail := congrArg List.tail isRest
  rwa [List.tail_cons, Memory.progress, List.tail_drop] at tail

theorem progress_advance {next : PlacedToken} {rest : List PlacedToken}
    (isRest : (memory.progress tokens).rest = next :: rest)
    : memory.advance.progress tokens = { memory.progress tokens with rest } := by
  rw [Memory.progress, rest_advance isRest]
  rfl

theorem progress_note {next : PlacedToken} {rest : List PlacedToken}
    (isRest : (memory.progress tokens).rest = next :: rest) (name : String)
    : (memory.note name).progress tokens = ⟨name :: (memory.progress tokens).atoms, rest⟩ := by
  have same : tokens.drop (memory.note name).position = rest := rest_advance isRest
  rw [Memory.progress, same, Memory.note, List.reverse_append]
  rfl

theorem sees_iff {token : Token}
    : memory.sees tokens token = true
      ↔ ∃ next rest, (memory.progress tokens).rest = next :: rest ∧ next.token = token := by
  rw [Memory.sees, next?_eq_head?, beq_iff_eq]
  cases (memory.progress tokens).rest with
  | nil => simp
  | cons next rest => simp

-----------------------------------------------------------------------------------------
-- Procedures
-----------------------------------------------------------------------------------------

/-- Calls of a procedure come to what a part of the recognizer reads at a depth. -/
def Runs (tokens : List PlacedToken) (depth : Nat) (procedure : Procedure)
    (part : Recognizer.Step) : Prop :=
  ∀ (memory : Memory) (callers : List Call),
    memory.depth = depth
    → Ends tokens (enter memory procedure callers) memory callers
        (part (memory.progress tokens))

theorem more_of_not_sees {operator : Token} (operand : Recognizer.Step) (fuel : Nat)
    (unseen : memory.sees tokens operator = false)
    : more operator operand fuel (memory.progress tokens) = .ok (memory.progress tokens) := by
  cases fuel with
  | zero => rfl
  | succ fuel =>
      rw [more]
      split
      next => rfl
      next next rest isRest =>
        have other : next.token ≠ operator := by
          intro same
          rw [sees_iff.mpr ⟨next, rest, isRest, same⟩] at unseen
          cases unseen
        rw [if_neg other]

theorem more_of_sees {operator : Token} (operand : Recognizer.Step) (fuel : Nat)
    (seen : memory.sees tokens operator = true)
    : more operator operand (fuel + 1) (memory.progress tokens)
      = operand (memory.advance.progress tokens) >>= more operator operand fuel := by
  obtain ⟨next, rest, isRest, same⟩ := sees_iff.mp seen
  rw [progress_advance isRest]
  simp only [more, isRest, if_pos same]

/-- Where the operator does not follow, a chain is at its end. -/
theorem ends_joining {level : Level} (operand : Recognizer.Step) (fuel : Nat) (call : Call)
    (callers : List Call) (unseen : memory.sees tokens level.operator = false)
    : Ends tokens (reach memory call (.joining level) callers) memory callers
        (more level.operator operand fuel (memory.progress tokens)) := by
  refine .of_step ?_
  change Ends tokens (if memory.sees tokens level.operator then _ else _) _ _ _
  rw [unseen, more_of_not_sees operand fuel unseen]
  exact ends_done memory rfl (Nat.le_refl _)

/-- Further operands are read in the loop of a call, by induction on the fuel. -/
theorem Runs.more {level : Level} {operand : Recognizer.Step}
    (runs : Runs tokens depth level.operand operand) (fuel : Nat) (atDepth : memory.depth = depth)
    (enough : (memory.progress tokens).rest.length ≤ fuel) (call : Call) (callers : List Call)
    : Ends tokens (reach memory call (.joining level) callers) memory callers
        (more level.operator operand fuel (memory.progress tokens)) := by
  induction fuel generalizing memory with
  | zero =>
      refine ends_joining operand 0 call callers ?_
      rw [Memory.sees, next?_eq_head?, List.length_eq_zero_iff.mp (Nat.le_zero.mp enough)]
      rfl
  | succ fuel ih =>
      cases seen : memory.sees tokens level.operator with
      | false => exact ends_joining operand (fuel + 1) call callers seen
      | true =>
          refine .of_step ?_
          change Ends tokens (if memory.sees tokens level.operator then _ else _) _ _ _
          rw [if_pos seen, more_of_sees operand fuel seen]
          have first :=
            runs memory.advance ({ call with point := .joining level } :: callers) atDepth
          refine first.bind fun behind sameDepth later => ?_
          have fewer : (behind.progress tokens).rest.length ≤ fuel := by
            simp only [Memory.progress, List.length_drop, Memory.advance] at enough later ⊢
            omega
          exact (ih (sameDepth.trans atDepth) fewer).earlier sameDepth
            (Nat.le_of_succ_le later)

/-- A chain of operands is read by the procedure for its operator. -/
theorem Runs.chain {operand : Recognizer.Step} (level : Level)
    (runs : Runs tokens depth level.operand operand)
    : Runs tokens depth (.chain level) (chain level.operator operand) := by
  intro memory callers atDepth
  refine .of_step ?_
  have first := runs memory
    ({ procedure := .chain level, entry := memory, point := .joining level } :: callers) atDepth
  refine first.bind fun behind sameDepth later => ?_
  have others := runs.more _ (sameDepth.trans atDepth) (Nat.le_refl _)
    ⟨.chain level, memory, .entered⟩ callers
  exact others.earlier sameDepth later

theorem negated_of_not_sees (operand : Recognizer.Step)
    (unseen : memory.sees tokens .negation = false)
    : negated operand (memory.progress tokens) = operand (memory.progress tokens) := by
  rw [negated]
  cases isRest : (memory.progress tokens).rest with
  | nil =>
      rw [List.dropWhile_nil, ← isRest]
  | cons next rest =>
      have other : next.token ≠ .negation := by
        intro same
        rw [sees_iff.mpr ⟨next, rest, isRest, same⟩] at unseen
        cases unseen
      rw [List.dropWhile_cons_of_neg (by simpa using other), ← isRest]

theorem negated_of_sees (operand : Recognizer.Step) (seen : memory.sees tokens .negation = true)
    : negated operand (memory.progress tokens)
      = negated operand (memory.advance.progress tokens) := by
  obtain ⟨next, rest, isRest, same⟩ := sees_iff.mp seen
  rw [progress_advance isRest, negated, negated, isRest,
    List.dropWhile_cons_of_pos (by simpa using same)]

/-- What follows the last negation sign is read as it stands. -/
theorem Runs.unsigned {operand : Recognizer.Step} (runs : Runs tokens depth .primary operand)
    (call : Call) (callers : List Call) (atDepth : memory.depth = depth)
    (unseen : memory.sees tokens .negation = false)
    : Ends tokens (reach memory call .negating callers) memory callers
        (negated operand (memory.progress tokens)) := by
  refine .of_step ?_
  change Ends tokens (if memory.sees tokens .negation then _ else _) _ _ _
  rw [unseen, negated_of_not_sees operand unseen]
  exact (runs memory ({ call with point := .done } :: callers) atDepth).of_done

/-- Negation signs are taken before an operand, by induction on the tokens that are left. -/
theorem Runs.negating {operand : Recognizer.Step} (runs : Runs tokens depth .primary operand)
    (call : Call) (callers : List Call) (atDepth : memory.depth = depth)
    : Ends tokens (reach memory call .negating callers) memory callers
        (negated operand (memory.progress tokens)) := by
  generalize isRest : (memory.progress tokens).rest = rest
  induction rest generalizing memory with
  | nil =>
      refine runs.unsigned call callers atDepth ?_
      rw [Memory.sees, next?_eq_head?, isRest]
      rfl
  | cons next rest ih =>
      cases seen : memory.sees tokens .negation with
      | false => exact runs.unsigned call callers atDepth seen
      | true =>
          have others := @ih memory.advance atDepth (rest_advance isRest)
          refine .of_step ?_
          change Ends tokens (if memory.sees tokens .negation then _ else _) _ _ _
          rw [if_pos seen, negated_of_sees operand seen]
          exact others.earlier rfl (Nat.le_succ _)

theorem Runs.negated {operand : Recognizer.Step} (runs : Runs tokens depth .primary operand)
    : Runs tokens depth .negated (negated operand) := fun _ callers atDepth =>
  .of_step (runs.negating _ callers atDepth)

-----------------------------------------------------------------------------------------
-- Parentheses
-----------------------------------------------------------------------------------------

/-- Behind an opened parenthesis a call comes to what a part of the recognizer reads up to the one
that closes it.
-/
def Encloses (tokens : List PlacedToken) (depth : Nat) (inside : Recognizer.Step) : Prop :=
  ∀ (memory : Memory) (call : Call) (callers : List Call) (opened : Nat),
    memory.depth = depth
    → Ends tokens (reach memory call (.opened opened) callers) memory callers
        (inside (memory.progress tokens) >>= Recognizer.close opened)

/-- At the greatest depth one more parenthesis is too many. -/
theorem encloses_of_full (full : maxDepth ≤ depth)
    : Encloses tokens depth fun _ => .error .tooDeep := by
  intro memory call callers opened atDepth
  refine .of_step (.of_step ?_)
  change Ends tokens (if maxDepth < memory.depth + 1 then _ else _) _ _ _
  rw [if_pos (by omega)]
  exact ends_refuse memory .tooDeep

/-- The closing parenthesis is taken, or found missing. -/
theorem ends_close (tokens : List PlacedToken) (memory : Memory) (call : Call)
    (callers : List Call) (opened : Nat)
    : Ends tokens (reach memory call (.closing opened) callers) memory callers
        (Recognizer.close opened (memory.progress tokens)) := by
  refine .of_step ?_
  change Ends tokens (Calls.close tokens memory _ callers opened) _ _ _
  rw [close, Recognizer.close, next?_eq_head?]
  cases isRest : (memory.progress tokens).rest with
  | nil => exact ends_refuse memory (.unclosedParen opened)
  | cons next rest =>
      dsimp only [List.head?_cons]
      split
      · rw [← progress_advance isRest]
        exact ends_done memory rfl (Nat.le_succ _)
      · exact ends_refuse memory _

/-- With room for one more parenthesis a whole formula is read one level deeper. -/
theorem Runs.encloses {inside : Recognizer.Step} (runs : Runs tokens (depth + 1) .whole inside)
    (room : depth < maxDepth)
    : Encloses tokens depth inside := by
  intro memory call callers opened atDepth
  refine .of_step (.of_step ?_)
  change Ends tokens (if maxDepth < memory.depth + 1 then _ else _) _ _ _
  rw [if_neg (by omega)]
  have first := runs { memory with depth := memory.depth + 1 }
    ({ call with point := .enclosed opened } :: callers) (congrArg (· + 1) atDepth)
  refine first.bind fun behind deeper later => ?_
  obtain ⟨position, _, atoms⟩ := behind
  obtain rfl : _ = memory.depth + 1 := deeper
  have closed := ends_close tokens ⟨position, memory.depth, atoms⟩ call callers opened
  exact .of_step (closed.earlier rfl later)

/-- What binds tightest is read by its procedure, by cases on the first token. -/
theorem Encloses.primary {inside : Recognizer.Step} (encloses : Encloses tokens depth inside)
    : Runs tokens depth .primary (primary inside) := by
  intro memory callers atDepth
  refine .of_step ?_
  change Ends tokens (beginPrimary tokens memory ⟨.primary, memory, .entered⟩ callers) _ _ _
  generalize (⟨.primary, memory, .entered⟩ : Call) = call
  rw [beginPrimary, Recognizer.primary, next?_eq_head?]
  cases isRest : (memory.progress tokens).rest with
  | nil => exact ends_refuse memory .unexpectedEnd
  | cons next rest =>
      obtain ⟨token, offset⟩ := next
      have taken := progress_advance isRest
      cases token with
      | truth | falsity =>
          dsimp only [List.head?_cons]
          rw [← taken]
          exact ends_done memory rfl (Nat.le_succ _)
      | atom name =>
          dsimp only [List.head?_cons]
          rw [← progress_note isRest name]
          exact ends_done memory rfl (Nat.le_succ _)
      | openParen =>
          dsimp only [List.head?_cons]
          rw [← taken]
          exact (encloses memory.advance call callers offset atDepth).earlier rfl (Nat.le_succ _)
      | _ => exact ends_refuse memory _

/-- A whole formula is read by its procedure, by binding strength. -/
theorem Encloses.whole {inside : Recognizer.Step} (encloses : Encloses tokens depth inside)
    : Runs tokens depth .whole (equivalences inside) :=
  (((encloses.primary.negated.chain .conjunction).chain .disjunction).chain .implication).chain
    .equivalence

/-- A formula with room for more parentheses is read at the depth that leaves this room, by
induction on the room.
-/
theorem runs_formula (tokens : List PlacedToken) (room depth : Nat)
    (total : depth + room = maxDepth)
    : Runs tokens depth .whole (formula room) := by
  induction room generalizing depth with
  | zero => exact (encloses_of_full (by omega)).whole
  | succ room ih => exact ((ih (depth + 1) (by omega)).encloses (by omega)).whole

-----------------------------------------------------------------------------------------
-- Whole runs
-----------------------------------------------------------------------------------------

theorem exists_after_of_leads (leads : Leads tokens (after tokens 0) last)
    : ∃ count, after tokens count = last := by
  induction leads with
  | refl => exact ⟨0, rfl⟩
  | tail _ isStep ih =>
      obtain ⟨count, rfl⟩ := ih
      exact ⟨count + 1, isStep⟩

/-- Nothing happens after the end. -/
theorem after_eq_of_result {result : Except SyntaxError Progress} {count later : Nat}
    (ended : (after tokens count).result? tokens = some result) (behind : count ≤ later)
    : after tokens later = after tokens count := by
  induction behind with
  | refl => rfl
  | step _ ih =>
      rw [after, ih, step]
      unfold State.result? at ended
      split at ended
      next refused => rw [refused]
      next running noCalls => rw [running, noCalls]
      next => cases ended

/-- Every run comes to an end, with what the recognizer reads or refuses. -/
theorem exists_result (tokens : List PlacedToken)
    : ∃ count,
        (after tokens count).result? tokens
          = some (formula maxDepth ⟨[], tokens⟩) := by
  have ends := runs_formula tokens maxDepth 0 (Nat.zero_add _) ⟨0, 0, []⟩ [] rfl
  change Ends tokens (after tokens 0) _ [] (formula maxDepth ⟨[], tokens⟩) at ends
  cases read : formula maxDepth ⟨[], tokens⟩ with
  | error fault =>
      rw [read] at ends
      obtain ⟨memory, calls, leads⟩ := ends
      obtain ⟨count, reached⟩ := exists_after_of_leads leads
      exact ⟨count, by rw [reached]; rfl⟩
  | ok progress =>
      rw [read] at ends
      obtain ⟨memory, leads, rfl, -⟩ := ends
      obtain ⟨count, reached⟩ := exists_after_of_leads leads
      exact ⟨count, by rw [reached]; rfl⟩

end SatClient.Calls
