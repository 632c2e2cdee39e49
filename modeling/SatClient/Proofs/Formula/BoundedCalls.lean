import Mathlib.Data.List.Basic
import SatClient.Proofs.Formula.CallRuns

/-! The calls of the recognizer are bounded and balanced. What the memory is at a point of a call is
fixed by the tokens that have been taken and by the memory at its entry; each step keeps this for
the call on top and for those below it. So the depth is always the number of parentheses that are
open, and as many calls for whole formulas are under way as it says, and one more.
-/

namespace SatClient.Calls

open Recognizer (formula)
open State (enter reach refuse)

variable {tokens : List PlacedToken} {state : State} {memory : Memory} {call : Call}
  {callers : List Call} {uncounted : Nat}

-----------------------------------------------------------------------------------------
-- What has been taken
-----------------------------------------------------------------------------------------

def taken (tokens : List PlacedToken) (position : Nat) : List Token :=
  (tokens.take position).map PlacedToken.token

/-- The tokens from one position to another. -/
def between (tokens : List PlacedToken) (start stop : Nat) : List Token :=
  (taken tokens stop).drop start

theorem atomsOf_append (front back : List Token)
    : atomsOf (front ++ back) = atomsOf front ++ atomsOf back := by
  induction front with
  | nil => rfl
  | cons token rest ih => cases token <;> simp [atomsOf, ih]

theorem taken_append_between {start stop : Nat} (ordered : start ≤ stop)
    : taken tokens start ++ between tokens start stop = taken tokens stop := by
  have front : taken tokens start = (taken tokens stop).take start := by
    rw [taken, taken, ← List.map_take, List.take_take, Nat.min_eq_left ordered]
  rw [front, between, List.take_append_drop]

theorem taken_succ {position : Nat} {next : PlacedToken} (found : tokens[position]? = some next)
    : taken tokens (position + 1) = taken tokens position ++ [next.token] := by
  rw [taken, List.take_add_one, found, List.map_append]
  rfl

/-- The memory goes with the tokens that have been taken, apart from some parentheses that are not
counted yet or not any more.
-/
structure Memory.Tracks (tokens : List PlacedToken) (uncounted : Nat) (memory : Memory)
    : Prop where
  inText : memory.position ≤ tokens.length
  atoms : memory.atoms = atomsOf (taken tokens memory.position)
  balance
    : memory.depth + uncounted + (taken tokens memory.position).count .closeParen
      = (taken tokens memory.position).count .openParen

/-- One more token is taken, and its variable is noted. -/
theorem Memory.Tracks.take {next : PlacedToken} {atoms : List String} {later : Nat}
    (tracks : memory.Tracks tokens uncounted) (found : memory.next? tokens = some next)
    (noted : atoms = memory.atoms ++ atomsOf [next.token])
    (counted
      : later + [next.token].count .closeParen = uncounted + [next.token].count .openParen)
    : Memory.Tracks tokens later ⟨memory.position + 1, memory.depth, atoms⟩ where
  inText := (List.getElem?_eq_some_iff.mp found).1
  atoms := by rw [taken_succ found, atomsOf_append, noted, tracks.atoms]
  balance := by
    have balance := tracks.balance
    rw [taken_succ found, List.count_append, List.count_append]
    dsimp only
    omega

theorem exists_next_of_sees {token : Token} (seen : memory.sees tokens token = true)
    : ∃ next, memory.next? tokens = some next ∧ next.token = token :=
  Option.map_eq_some_iff.mp (beq_iff_eq.mp seen)

/-- A token that is neither a variable nor a parenthesis makes no difference. -/
theorem Memory.Tracks.advance {token : Token} (tracks : memory.Tracks tokens uncounted)
    (seen : memory.sees tokens token = true) (noAtom : atomsOf [token] = [])
    (noParen : [token].count .closeParen = [token].count .openParen)
    : memory.advance.Tracks tokens uncounted := by
  obtain ⟨next, found, rfl⟩ := exists_next_of_sees seen
  exact tracks.take found (by rw [noAtom, List.append_nil]) (by rw [noParen])

-----------------------------------------------------------------------------------------
-- Points
-----------------------------------------------------------------------------------------

namespace Point

/-- How much deeper a call is at a point than at its entry. -/
def descent : Point → Nat
  | counted _ | enclosed _ => 1
  | _ => 0

/-- How many parentheses have been taken that are not counted at a point. -/
def pending : Point → Nat
  | opened _ | closing _ => 1
  | _ => 0

/-- Whether a call has taken a token when it comes to a point. -/
def hasRead : Point → Bool
  | entered | negating => false
  | _ => true

end Point

/-- How the memory is at the point of a call, with no other call on top of it. -/
structure Call.Stands (tokens : List PlacedToken) (memory : Memory) (call : Call) : Prop where
  tracks : memory.Tracks tokens call.point.pending
  deeper : memory.depth = call.entry.depth + call.point.descent
  later : call.entry.position ≤ memory.position
  read : call.point.hasRead = true → call.entry.position < memory.position
  fresh : call.point = .entered → memory = call.entry

theorem Call.Stands.of_point {point : Point} (stands : call.Stands tokens memory)
    (isAt : call.point = point)
    : memory.Tracks tokens point.pending
      ∧ memory.depth = call.entry.depth + point.descent
      ∧ (point.hasRead = true → call.entry.position < memory.position) := by
  subst isAt
  exact ⟨stands.tracks, stands.deeper, stands.read⟩

/-- How the entry of a call is under the one that waits for it. -/
structure Call.Waits (tokens : List PlacedToken) (call caller : Call) : Prop where
  tracks : call.entry.Tracks tokens 0
  room : call.entry.depth ≤ maxDepth
  deeper : call.entry.depth = caller.entry.depth + caller.point.descent
  later : caller.entry.position ≤ call.entry.position
  opens : [call.procedure].count .whole = caller.point.descent
  settled : caller.point.pending = 0
  begun : caller.point ≠ .entered

/-- Calls that are under way: the first was for the whole formula, and each waits for the next one.
-/
inductive Nested (tokens : List PlacedToken) : List Call → Prop
  | outermost {point} : Nested tokens [⟨.whole, ⟨0, 0, []⟩, point⟩]
  | inner {call caller : Call} {callers : List Call} (outer : Nested tokens (caller :: callers))
    (waits : call.Waits tokens caller)
    : Nested tokens (call :: caller :: callers)

theorem Nested.entry (nested : Nested tokens (call :: callers))
    : call.entry.Tracks tokens 0 ∧ call.entry.depth ≤ maxDepth := by
  cases nested with
  | outermost => exact ⟨⟨Nat.zero_le _, rfl, rfl⟩, Nat.zero_le _⟩
  | inner outer waits => exact ⟨waits.tracks, waits.room⟩

theorem Nested.reach (nested : Nested tokens (call :: callers)) (point : Point)
    : Nested tokens ({ call with point } :: callers) := by
  cases nested with
  | outermost => exact .outermost
  | inner outer waits =>
      exact .inner outer
        ⟨waits.tracks, waits.room, waits.deeper, waits.later, waits.opens, waits.settled,
          waits.begun⟩

/-- As many calls for whole formulas are under way as parentheses were open at the last entry, and
one more, by induction on the calls.
-/
theorem Nested.live_eq (nested : Nested tokens (call :: callers))
    : ((call :: callers).map Call.procedure).count .whole = call.entry.depth + 1 := by
  generalize isCalls : call :: callers = calls at nested
  induction nested generalizing call callers with
  | outermost =>
      cases isCalls
      rfl
  | @inner _ caller rest outer waits ih =>
      cases isCalls
      have below := ih rfl
      rw [List.map_cons, ← List.singleton_append, List.count_append, below, waits.opens,
        waits.deeper]
      omega

-----------------------------------------------------------------------------------------
-- Steps
-----------------------------------------------------------------------------------------

/-- What is right about the recognizer at a moment. -/
inductive Sound (tokens : List PlacedToken) : State → Prop
  | running {memory : Memory} {call : Call} {callers : List Call}
    (nested : Nested tokens (call :: callers)) (stands : call.Stands tokens memory)
    : Sound tokens ⟨memory, call :: callers, .running⟩
  | refused {memory : Memory} {call : Call} {callers : List Call} {fault : SyntaxError}
    (nested : Nested tokens (call :: callers)) (stands : call.Stands tokens memory)
    : Sound tokens ⟨memory, call :: callers, .refused fault⟩
  | finished {memory : Memory} (tracks : memory.Tracks tokens 0) (level : memory.depth = 0)
    : Sound tokens ⟨memory, [], .running⟩

/-- A call is entered by one that then waits at a point. -/
theorem Nested.sound_enter (nested : Nested tokens (call :: callers)) {point : Point}
    {procedure : Procedure} (settled : point.pending = 0) (begun : point ≠ .entered)
    (opens : [procedure].count .whole = point.descent) (tracks : memory.Tracks tokens 0)
    (deeper : memory.depth = call.entry.depth + point.descent) (room : memory.depth ≤ maxDepth)
    (later : call.entry.position ≤ memory.position)
    : Sound tokens (enter memory procedure ({ call with point } :: callers)) :=
  .running
    (.inner (nested.reach point) ⟨tracks, room, deeper, later, opens, settled, begun⟩)
    ⟨tracks, rfl, Nat.le_refl _, nofun, fun _ => rfl⟩

/-- A call returns to the one that waits for it, or ends the run. -/
theorem Nested.sound_return (nested : Nested tokens (call :: callers))
    (stands : call.Stands tokens memory) (done : call.point = .done)
    : Sound tokens ⟨memory, callers, .running⟩ := by
  have tracks := stands.tracks
  have deeper := stands.deeper
  have read := stands.read (by rw [done]; rfl)
  rw [done] at tracks deeper
  cases nested with
  | outermost => exact .finished tracks deeper
  | inner outer waits =>
      refine .running outer ⟨?_, ?_, ?_, ?_, ?_⟩
      · rw [waits.settled]
        exact tracks
      · rw [deeper, waits.deeper]
        rfl
      · exact Nat.le_trans waits.later stands.later
      · exact fun _ => Nat.lt_of_le_of_lt waits.later read
      · exact fun entered => absurd entered waits.begun

/-- A call begins with what binds tightest, by cases on the token that is looked at. -/
theorem Nested.sound_beginPrimary (nested : Nested tokens (call :: callers))
    (stands : call.Stands tokens memory) (entered : call.point = .entered)
    : Sound tokens (beginPrimary tokens memory call callers) := by
  have tracks : memory.Tracks tokens 0 := by simpa [entered, Point.pending] using stands.tracks
  have deeper : memory.depth = call.entry.depth := by
    simpa [entered, Point.descent] using stands.deeper
  have later := Nat.lt_succ_of_le stands.later
  unfold beginPrimary
  split
  next => exact .refused nested stands
  next next found =>
    -- What is taken here takes the call to its end, except for an opening parenthesis.
    have returns {atoms : List String}
        (taken : Memory.Tracks tokens 0 ⟨memory.position + 1, memory.depth, atoms⟩)
        : Sound tokens
            (State.reach ⟨memory.position + 1, memory.depth, atoms⟩ call .done callers) :=
      .running (nested.reach .done) ⟨taken, deeper, Nat.le_of_lt later, fun _ => later, nofun⟩
    split
    next isTruth =>
      exact returns (tracks.take found (by simp [isTruth, atomsOf]) (by simp [isTruth]))
    next isFalsity =>
      exact returns (tracks.take found (by simp [isFalsity, atomsOf]) (by simp [isFalsity]))
    next name isAtom =>
      exact returns (tracks.take found (by simp [isAtom, atomsOf]) (by simp [isAtom]))
    next isOpen =>
      have taken : Memory.Tracks tokens 1 memory.advance :=
        tracks.take found (by simp [isOpen, atomsOf]) (by simp [isOpen])
      exact .running (nested.reach _) ⟨taken, deeper, Nat.le_of_lt later, fun _ => later, nofun⟩
    next => exact .refused nested stands

/-- A call begins: it enters another one, looks for a negation, or takes a token. -/
theorem Nested.sound_begin (nested : Nested tokens (call :: callers))
    (stands : call.Stands tokens memory) (entered : call.point = .entered)
    : Sound tokens (begin tokens memory call callers) := by
  obtain ⟨tracks, deeper, -⟩ := stands.of_point entered
  have room : memory.depth ≤ maxDepth := deeper ▸ nested.entry.2
  unfold begin
  split
  next level _ =>
    exact nested.sound_enter rfl nofun (by cases level <;> rfl) tracks deeper room stands.later
  next =>
    exact .running (nested.reach .negating) ⟨tracks, deeper, stands.later, nofun, nofun⟩
  next => exact nested.sound_beginPrimary stands entered

/-- A chain goes on behind its operator, or ends. -/
theorem Nested.sound_joining (nested : Nested tokens (call :: callers))
    (stands : call.Stands tokens memory) {level : Level} (joining : call.point = .joining level)
    : Sound tokens (resume tokens memory call callers) := by
  obtain ⟨tracks, deeper, read⟩ := stands.of_point joining
  simp only [resume, joining]
  split
  next seen =>
    have taken := tracks.advance seen (by cases level <;> rfl) (by cases level <;> rfl)
    have opens : [level.operand].count .whole = 0 := by cases level <;> rfl
    have entering
        : Sound tokens
            (enter memory.advance level.operand
              ({ call with point := .joining level } :: callers)) :=
      nested.sound_enter rfl nofun opens taken deeper (deeper ▸ nested.entry.2)
        (Nat.le_succ_of_le stands.later)
    rwa [← joining] at entering
  next =>
    exact .running (nested.reach .done) ⟨tracks, deeper, stands.later, fun _ => read rfl, nofun⟩

/-- One more negation is taken, or what it negates is entered. -/
theorem Nested.sound_negating (nested : Nested tokens (call :: callers))
    (stands : call.Stands tokens memory) (negating : call.point = .negating)
    : Sound tokens (resume tokens memory call callers) := by
  obtain ⟨tracks, deeper, -⟩ := stands.of_point negating
  simp only [resume, negating]
  split
  next seen =>
    exact .running (nested.reach .negating)
      ⟨tracks.advance seen rfl rfl, deeper, Nat.le_succ_of_le stands.later, nofun, nofun⟩
  next =>
    exact nested.sound_enter rfl nofun rfl tracks deeper (deeper ▸ nested.entry.2) stands.later

/-- A parenthesis that was taken is counted. -/
theorem Nested.sound_opened (nested : Nested tokens (call :: callers))
    (stands : call.Stands tokens memory) {offset : Nat} (opened : call.point = .opened offset)
    : Sound tokens (resume tokens memory call callers) := by
  obtain ⟨tracks, deeper, read⟩ := stands.of_point opened
  have counted : Memory.Tracks tokens 0 { memory with depth := memory.depth + 1 } :=
    ⟨tracks.inText, tracks.atoms, tracks.balance⟩
  simp only [resume, opened]
  exact .running (nested.reach _)
    ⟨counted, congrArg (· + 1) deeper, stands.later, fun _ => read rfl, nofun⟩

/-- What stands in parentheses is entered, if there is room for it. -/
theorem Nested.sound_counted (nested : Nested tokens (call :: callers))
    (stands : call.Stands tokens memory) {offset : Nat} (counted : call.point = .counted offset)
    : Sound tokens (resume tokens memory call callers) := by
  obtain ⟨tracks, deeper, -⟩ := stands.of_point counted
  simp only [resume, counted]
  split
  next => exact .refused nested stands
  next room =>
    exact nested.sound_enter rfl nofun rfl tracks deeper (Nat.le_of_not_lt room) stands.later

/-- What stood in parentheses is behind, and they are counted no more. -/
theorem Nested.sound_enclosed (nested : Nested tokens (call :: callers))
    (stands : call.Stands tokens memory) {offset : Nat} (enclosed : call.point = .enclosed offset)
    : Sound tokens (resume tokens memory call callers) := by
  obtain ⟨tracks, deeper, read⟩ := stands.of_point enclosed
  simp only [resume, enclosed]
  split
  next isZero =>
    rw [isZero] at deeper
    cases deeper
  next depth isSucc =>
    have balance := tracks.balance
    rw [isSucc] at deeper balance
    exact .running (nested.reach _)
      ⟨⟨tracks.inText, tracks.atoms, balance⟩, Nat.succ.inj deeper, stands.later,
        fun _ => read rfl, nofun⟩

/-- The parenthesis is closed, or something else stands there. -/
theorem Nested.sound_close (nested : Nested tokens (call :: callers))
    (stands : call.Stands tokens memory) {offset : Nat} (closing : call.point = .closing offset)
    : Sound tokens (close tokens memory call callers offset) := by
  obtain ⟨tracks, deeper, -⟩ := stands.of_point closing
  unfold close
  split
  next => exact .refused nested stands
  next next found =>
    split
    next isClose =>
      have taken : Memory.Tracks tokens 0 memory.advance :=
        tracks.take found (by simp [isClose, atomsOf]) (by simp [isClose, Point.pending])
      exact .running (nested.reach .done)
        ⟨taken, deeper, Nat.le_succ_of_le stands.later,
          fun _ => Nat.lt_succ_of_le stands.later, nofun⟩
    next => exact .refused nested stands

/-- A step keeps what is right, by cases on the point of the call on top. -/
theorem Nested.sound_resume (nested : Nested tokens (call :: callers))
    (stands : call.Stands tokens memory)
    : Sound tokens (resume tokens memory call callers) := by
  cases isAt : call.point with
  | entered =>
      simp only [resume, isAt]
      exact nested.sound_begin stands isAt
  | joining level => exact nested.sound_joining stands isAt
  | negating => exact nested.sound_negating stands isAt
  | opened offset => exact nested.sound_opened stands isAt
  | counted offset => exact nested.sound_counted stands isAt
  | enclosed offset => exact nested.sound_enclosed stands isAt
  | closing offset =>
      simp only [resume, isAt]
      exact nested.sound_close stands isAt
  | done =>
      simp only [resume, isAt]
      exact nested.sound_return stands isAt

theorem Sound.step (sound : Sound tokens state) : Sound tokens (step tokens state) := by
  cases sound with
  | running nested stands => exact nested.sound_resume stands
  | refused nested stands => exact .refused nested stands
  | finished tracks level => exact .finished tracks level

/-- The recognizer is right at every moment, by induction on the steps. -/
theorem sound_after (tokens : List PlacedToken) (count : Nat)
    : Sound tokens (after tokens count) := by
  induction count with
  | zero =>
      exact .running .outermost
        ⟨⟨Nat.zero_le _, rfl, rfl⟩, rfl, Nat.le_refl _, nofun, fun _ => rfl⟩
  | succ count ih => exact ih.step

-----------------------------------------------------------------------------------------
-- Entries
-----------------------------------------------------------------------------------------

/-- What a step does to the calls: the one on top returns, or comes to another point, or enters one
that is then on top of it.
-/
theorem resume_cases (tokens : List PlacedToken) (memory : Memory) (call : Call)
    (callers : List Call)
    : (resume tokens memory call callers).calls = callers
      ∨ (∃ point, (resume tokens memory call callers).calls = { call with point } :: callers)
      ∨ ∃ entry procedure point,
          resume tokens memory call callers
            = enter entry procedure ({ call with point } :: callers) := by
  unfold resume
  split
  next =>
    unfold begin
    split
    next => exact .inr (.inr ⟨_, _, _, rfl⟩)
    next => exact .inr (.inl ⟨_, rfl⟩)
    next =>
      unfold beginPrimary
      split
      · exact .inr (.inl ⟨call.point, rfl⟩)
      · split <;> exact .inr (.inl ⟨_, rfl⟩)
  next =>
    split
    · exact .inr (.inr ⟨_, _, call.point, rfl⟩)
    · exact .inr (.inl ⟨_, rfl⟩)
  next =>
    split
    · exact .inr (.inl ⟨_, rfl⟩)
    · exact .inr (.inr ⟨_, _, _, rfl⟩)
  next => exact .inr (.inl ⟨_, rfl⟩)
  next =>
    split
    · exact .inr (.inl ⟨call.point, rfl⟩)
    · exact .inr (.inr ⟨_, _, _, rfl⟩)
  next => split <;> exact .inr (.inl ⟨_, rfl⟩)
  next =>
    unfold close
    split
    · exact .inr (.inl ⟨call.point, rfl⟩)
    · split <;> exact .inr (.inl ⟨_, rfl⟩)
  next => exact .inl rfl

/-- Every call that is under way has been entered with the memory that it keeps, and over the same
callers, by induction on the steps.
-/
theorem exists_entry {count : Nat} (underWay : call :: callers <:+ (after tokens count).calls)
    : ∃ earlier ≤ count, after tokens earlier = enter call.entry call.procedure callers := by
  induction count generalizing call callers with
  | zero =>
      rcases List.suffix_cons_iff.mp underWay with same | none
      · cases same
        exact ⟨0, Nat.le_refl _, rfl⟩
      · cases List.suffix_nil.mp none
  | succ count ih =>
      have sooner {call : Call} {callers : List Call}
          (underWay : call :: callers <:+ (after tokens count).calls)
          : ∃ earlier ≤ count + 1,
              after tokens earlier = enter call.entry call.procedure callers := by
        obtain ⟨earlier, before, entered⟩ := ih underWay
        exact ⟨earlier, Nat.le_succ_of_le before, entered⟩
      have isStep : after tokens (count + 1) = step tokens (after tokens count) := rfl
      unfold step at isStep
      split at isStep
      next top below running isCalls =>
        rw [isCalls] at sooner
        have onTop (point : Point) (underWay : call :: callers <:+ { top with point } :: below)
            : ∃ earlier ≤ count + 1,
                after tokens earlier = enter call.entry call.procedure callers := by
          rcases List.suffix_cons_iff.mp underWay with same | inside
          · cases same
            exact @sooner top callers (List.suffix_refl _)
          · exact sooner (inside.trans (List.suffix_cons top below))
        rcases resume_cases tokens (after tokens count).memory top below with
          returned | ⟨point, moved⟩ | ⟨entry, procedure, point, entered⟩
        · rw [isStep, returned] at underWay
          exact sooner (underWay.trans (List.suffix_cons top below))
        · rw [isStep, moved] at underWay
          exact onTop point underWay
        · rw [isStep, entered] at underWay
          rcases List.suffix_cons_iff.mp underWay with same | inside
          · cases same
            exact ⟨count + 1, Nat.le_refl _, isStep.trans entered⟩
          · exact onTop point inside
      next =>
        rw [isStep] at underWay
        exact sooner underWay

-----------------------------------------------------------------------------------------
-- Every moment
-----------------------------------------------------------------------------------------

/-- The parentheses that are open in front of a position are those that count, and not too many. -/
structure Memory.IsBalanced (tokens : List PlacedToken) (memory : Memory) : Prop where
  balance
    : memory.depth + (taken tokens memory.position).count .closeParen
      = (taken tokens memory.position).count .openParen
  room : memory.depth ≤ maxDepth

/-- What a call has done when it returns. -/
structure Call.Returns (tokens : List PlacedToken) (memory : Memory) (call : Call) : Prop where
  read : call.entry.position < memory.position
  restored : memory.depth = call.entry.depth
  noted
    : memory.atoms
      = call.entry.atoms ++ atomsOf (between tokens call.entry.position memory.position)
  balanced : memory.IsBalanced tokens

/-- What is so at every moment of a run. -/
structure State.IsBounded (tokens : List PlacedToken) (state : State) : Prop where
  live : state.live ≤ maxDepth + 1
  inText : state.memory.position ≤ tokens.length
  depth : state.memory.depth ≤ maxDepth + 1
  noUnderflow : state.status ≠ .underflow
  entered
    : ∀ call callers,
        state.calls = call :: callers
        → call.point = .entered
        → state.memory = call.entry ∧ state.memory.IsBalanced tokens
  returned
    : ∀ call callers,
        state.calls = call :: callers
        → call.point = .done
        → call.Returns tokens state.memory

theorem Call.Stands.isBalanced (stands : call.Stands tokens memory)
    (settled : call.point.pending = 0) (level : call.point.descent = 0)
    (room : call.entry.depth ≤ maxDepth)
    : memory.IsBalanced tokens where
  balance := by
    have balance := stands.tracks.balance
    rwa [settled, Nat.add_zero] at balance
  room := by
    rw [stands.deeper, level]
    exact room

theorem Nested.returns (nested : Nested tokens (call :: callers))
    (stands : call.Stands tokens memory) (done : call.point = .done)
    : call.Returns tokens memory where
  read := stands.read (by rw [done]; rfl)
  restored := by rw [stands.deeper, done]; rfl
  noted := by
    rw [nested.entry.1.atoms, ← atomsOf_append, taken_append_between stands.later]
    exact stands.tracks.atoms
  balanced := stands.isBalanced (by rw [done]; rfl) (by rw [done]; rfl) nested.entry.2

theorem Point.descent_le (point : Point) : point.descent ≤ 1 := by
  cases point <;> simp [descent]

theorem Nested.isBounded (nested : Nested tokens (call :: callers))
    (stands : call.Stands tokens memory) {status : Status} (noUnderflow : status ≠ .underflow)
    : State.IsBounded tokens ⟨memory, call :: callers, status⟩ where
  live := by
    rw [State.live, nested.live_eq]
    exact Nat.succ_le_succ nested.entry.2
  inText := stands.tracks.inText
  depth := by
    dsimp only
    rw [stands.deeper]
    exact Nat.add_le_add nested.entry.2 call.point.descent_le
  noUnderflow := noUnderflow
  entered := by
    rintro _ _ ⟨⟩ entered
    exact
      ⟨stands.fresh entered,
        stands.isBalanced (by rw [entered]; rfl) (by rw [entered]; rfl) nested.entry.2⟩
  returned := by
    rintro _ _ ⟨⟩ done
    exact nested.returns stands done

theorem Sound.isBounded (sound : Sound tokens state) : state.IsBounded tokens := by
  cases sound with
  | running nested stands => exact nested.isBounded stands nofun
  | refused nested stands => exact nested.isBounded stands nofun
  | finished tracks level =>
      exact ⟨Nat.zero_le _, tracks.inText, level ▸ Nat.zero_le _, nofun, nofun, nofun⟩

/-- Whatever the tokens, the recognizer comes to an end and stays there, with the result of reading
a formula in which parentheses may be open 512 levels deep. At every moment on the way the calls
are bounded: at most 513 are under way for whole formulas, no token is taken that is not there, and
the depth never passes 513 and never falls below nothing. They are balanced: wherever a call is
entered or returns, the depth is the number of parentheses that are open, and is 512 at most; a
call that returns has taken a token or more, has the depth that it was entered with, and has noted
the variables that it took, in order. What a call keeps as its entry is what the memory was at the
moment when it was entered, over the callers that it still has.
-/
theorem after_isBounded (tokens : List PlacedToken)
    : (∃ last,
        (after tokens last).result? tokens = some (formula maxDepth ⟨[], tokens⟩)
        ∧ ∀ later, last ≤ later → after tokens later = after tokens last)
      ∧ ∀ count,
        (after tokens count).IsBounded tokens
        ∧ ∀ call callers,
          (after tokens count).calls = call :: callers
          → ∃ earlier ≤ count,
              after tokens earlier = enter call.entry call.procedure callers := by
  constructor
  · obtain ⟨last, ended⟩ := exists_result tokens
    exact ⟨last, ended, fun later behind => after_eq_of_result ended behind⟩
  · intro count
    refine ⟨(sound_after tokens count).isBounded, fun call callers isCalls => ?_⟩
    exact exists_entry (isCalls ▸ List.suffix_refl _)

end SatClient.Calls
