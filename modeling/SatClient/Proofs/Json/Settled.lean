import SatClient.Json.Value

/-! What a reader makes of a value as it is written: the members of every object sorted by name, and
only the last of each name.
-/

namespace SatClient.Json

namespace Value

mutual
/-- How many levels of brackets are open at once. -/
def nesting : Value → Nat
  | array items => nestingOfItems items + 1
  | object members => nestingOfMembers members + 1
  | _ => 0

def nestingOfItems : List Value → Nat
  | [] => 0
  | item :: items => max (nesting item) (nestingOfItems items)

def nestingOfMembers : List (String × Value) → Nat
  | [] => 0
  | (_, member) :: members => max (nesting member) (nestingOfMembers members)
end

mutual
/-- What a reader makes of a value: members sorted by name, the last of each name. -/
def settled : Value → Value
  | array items => array (settledItems items)
  | object members => object (settledMembers [] members)
  | null => null
  | bool b => bool b
  | number n => number n
  | string s => string s

def settledItems : List Value → List Value
  | [] => []
  | item :: items => settled item :: settledItems items

/-- What a reader makes of members, put among those found before. -/
def settledMembers (found : List (String × Value)) : List (String × Value) →
    List (String × Value)
  | [] => found
  | (name, member) :: members =>
      settledMembers (insertMember name (settled member) found) members
end

mutual
def numbers : Value → List Number
  | number n => [n]
  | array items => numbersOfItems items
  | object members => numbersOfMembers members
  | _ => []

def numbersOfItems : List Value → List Number
  | [] => []
  | item :: items => numbers item ++ numbersOfItems items

def numbersOfMembers : List (String × Value) → List Number
  | [] => []
  | (_, member) :: members => numbers member ++ numbersOfMembers members
end

end Value

-----------------------------------------------------------------------------------------
-- The last member of a name
-----------------------------------------------------------------------------------------

theorem lookup?_insertMember_self (name : String) (v : Value) (members : List (String × Value))
    : lookup? name (insertMember name v members) = some v := by
  induction members with
  | nil => simp [insertMember, lookup?]
  | cons member others ih =>
      obtain ⟨other, old⟩ := member
      rw [insertMember]
      split
      next => simp [lookup?]
      next =>
        split
        next => simp [lookup?]
        next different => rw [lookup?, if_neg different, ih]

theorem lookup?_insertMember_of_ne {name other : String} (different : name ≠ other) (v : Value)
    (members : List (String × Value))
    : lookup? name (insertMember other v members) = lookup? name members := by
  induction members with
  | nil => simp [insertMember, lookup?, different]
  | cons member others ih =>
      obtain ⟨third, old⟩ := member
      rw [insertMember]
      split
      next => rw [lookup?, if_neg different]
      next =>
        split
        next same =>
          subst same
          simp only [lookup?, if_neg different]
        next => simp only [lookup?, ih]

theorem lookup?_append (name : String) (first second : List (String × Value))
    : lookup? name (first ++ second) = (lookup? name first).or (lookup? name second) := by
  induction first with
  | nil => rfl
  | cons member others ih =>
      obtain ⟨other, v⟩ := member
      rw [List.cons_append, lookup?, lookup?]
      split
      next => rfl
      next => exact ih

/-- The value of the last member of a name. -/
def IsLast (name : String) (v : Value) (members : List (String × Value)) : Prop :=
  ∃ before after, members = before ++ (name, v) :: after ∧ ∀ member ∈ after, member.1 ≠ name

theorem lookup?_eq_none_iff {name : String} {members : List (String × Value)}
    : lookup? name members = none ↔ ∀ member ∈ members, member.1 ≠ name := by
  induction members with
  | nil => exact ⟨fun _ _ isIn => (nomatch isIn), fun _ => rfl⟩
  | cons member others ih =>
      obtain ⟨other, v⟩ := member
      rw [lookup?, List.forall_mem_cons]
      split
      next same => exact ⟨nofun, fun absent => absurd same.symm absent.1⟩
      next different =>
        rw [ih]
        exact ⟨fun absent => ⟨Ne.symm different, absent⟩, And.right⟩

/-- Looked up from the end, a name has the value of its last member. -/
theorem lookup?_reverse_eq_some_iff {name : String} {v : Value} {members : List (String × Value)}
    : lookup? name members.reverse = some v ↔ IsLast name v members := by
  constructor
  · intro found
    induction members with
    | nil => cases found
    | cons member others ih =>
        obtain ⟨other, w⟩ := member
        rw [List.reverse_cons, lookup?_append] at found
        cases later : lookup? name others.reverse with
        | some u =>
            rw [later, Option.some_or] at found
            obtain ⟨before, after, rfl, absent⟩ := ih (found ▸ later)
            exact ⟨(other, w) :: before, after, rfl, absent⟩
        | none =>
            rw [later, Option.none_or, lookup?] at found
            split at found
            next same =>
              cases found
              cases same
              exact ⟨[], others, rfl, fun member isIn =>
                lookup?_eq_none_iff.mp later member (List.mem_reverse.mpr isIn)⟩
            next => cases found
  · rintro ⟨before, after, rfl, absent⟩
    have none : lookup? name after.reverse = none :=
      lookup?_eq_none_iff.mpr fun member isIn => absent member (List.mem_reverse.mp isIn)
    rw [List.reverse_append, List.reverse_cons, lookup?_append, lookup?_append, none]
    simp [lookup?]

namespace Value

/-- Of the members of a name the last one counts. -/
theorem lookup?_settledMembers (name : String) (found raw : List (String × Value))
    : lookup? name (settledMembers found raw)
      = ((lookup? name raw.reverse).map settled).or (lookup? name found) := by
  induction raw generalizing found with
  | nil => rfl
  | cons member others ih =>
      obtain ⟨other, v⟩ := member
      rw [settledMembers, ih, List.reverse_cons, lookup?_append, Option.map_or, Option.or_assoc]
      -- Where no later member has the name, this one stands before what was found so far.
      congr 1
      by_cases same : name = other
      · subst same
        rw [lookup?_insertMember_self]
        simp [lookup?]
      · rw [lookup?_insertMember_of_ne same]
        simp [lookup?, same]

theorem get?_settled (name : String) (members : List (String × Value))
    : (object members).settled.get? name = (lookup? name members.reverse).map settled := by
  rw [settled, get?, lookup?_settledMembers]
  exact Option.or_none

/-- Settling makes no names. -/
theorem mem_names_of_mem_settledMembers {found raw : List (String × Value)}
    {member : String × Value} (isIn : member ∈ settledMembers found raw)
    : member.1 ∈ found.map Prod.fst ∨ member.1 ∈ raw.map Prod.fst := by
  have looked : lookup? member.1 (settledMembers found raw) ≠ none :=
    fun absent => lookup?_eq_none_iff.mp absent member isIn rfl
  refine Decidable.byContradiction fun unknown => looked ?_
  obtain ⟨notFound, notRaw⟩ := not_or.mp unknown
  rw [lookup?_settledMembers, Option.or_eq_none_iff, Option.map_eq_none_iff,
    lookup?_eq_none_iff, lookup?_eq_none_iff]
  refine ⟨fun other isOther same => notRaw ?_, fun other isOther same => notFound ?_⟩
  · exact same ▸ List.mem_map_of_mem (List.mem_reverse.mp isOther)
  · exact same ▸ List.mem_map_of_mem isOther

-----------------------------------------------------------------------------------------
-- Settled once and for all
-----------------------------------------------------------------------------------------

/-- Members in the order of their names, no name twice, with values that are settled. -/
structure Orderly (members : List (String × Value)) : Prop where
  sorted : members.Pairwise fun first second => first.1 < second.1
  settled : ∀ member ∈ members, member.2.settled = member.2

theorem mem_insertMember {name : String} {v : Value} {members : List (String × Value)}
    {member : String × Value} (isIn : member ∈ insertMember name v members)
    : member = (name, v) ∨ member ∈ members := by
  induction members with
  | nil => exact .inl (List.mem_singleton.mp isIn)
  | cons head others ih =>
      obtain ⟨other, old⟩ := head
      rw [insertMember] at isIn
      split at isIn
      next => exact List.mem_cons.mp isIn
      next =>
        split at isIn
        next => exact (List.mem_cons.mp isIn).imp_right (List.mem_cons_of_mem _)
        next =>
          rcases List.mem_cons.mp isIn with rfl | isIn
          · exact .inr (List.mem_cons_self ..)
          · exact (ih isIn).imp_right (List.mem_cons_of_mem _)

theorem sorted_insertMember {name : String} {v : Value} {members : List (String × Value)}
    (sorted : members.Pairwise fun first second => first.1 < second.1)
    : (insertMember name v members).Pairwise fun first second => first.1 < second.1 := by
  induction members with
  | nil => exact List.pairwise_singleton ..
  | cons head others ih =>
      obtain ⟨other, old⟩ := head
      obtain ⟨least, sortedOthers⟩ := List.pairwise_cons.mp sorted
      rw [insertMember]
      split
      next less =>
        refine List.pairwise_cons.mpr ⟨?_, sorted⟩
        intro member isIn
        rcases List.mem_cons.mp isIn with rfl | isIn
        · exact less
        · exact String.lt_trans less (least member isIn)
      next notLess =>
        split
        next same =>
          subst same
          exact List.pairwise_cons.mpr ⟨least, sortedOthers⟩
        next different =>
          refine List.pairwise_cons.mpr ⟨?_, ih sortedOthers⟩
          intro member isIn
          rcases mem_insertMember isIn with rfl | isIn
          · refine String.not_le.mp fun notGreater => different ?_
            exact String.le_antisymm notGreater (String.not_lt.mp notLess)
          · exact least member isIn

theorem Orderly.insertMember {name : String} {v : Value} {members : List (String × Value)}
    (orderly : Orderly members) (isSettled : v.settled = v)
    : Orderly (insertMember name v members) where
  sorted := sorted_insertMember orderly.sorted
  settled := by
    intro member isIn
    rcases mem_insertMember isIn with rfl | isIn
    · exact isSettled
    · exact orderly.settled member isIn

/-- A member goes behind all that have lesser names. -/
theorem insertMember_of_greatest {name : String} {v : Value} {members : List (String × Value)}
    (greatest : ∀ member ∈ members, member.1 < name)
    : Json.insertMember name v members = members ++ [(name, v)] := by
  induction members with
  | nil => rfl
  | cons head others ih =>
      obtain ⟨other, old⟩ := head
      have less : other < name := greatest _ (List.mem_cons_self ..)
      have different : name ≠ other := by
        rintro rfl
        exact String.lt_irrefl _ less
      rw [Json.insertMember, if_neg (String.lt_asymm less), if_neg different,
        ih fun member isIn => greatest member (List.mem_cons_of_mem _ isIn), List.cons_append]

/-- Members in order stay as they are, by induction on those that are still to come. -/
theorem settledMembers_of_orderly {found raw : List (String × Value)}
    (orderly : Orderly (found ++ raw))
    : settledMembers found raw = found ++ raw := by
  induction raw generalizing found with
  | nil => rw [settledMembers, List.append_nil]
  | cons member others ih =>
      obtain ⟨name, v⟩ := member
      have isSettled : v.settled = v :=
        orderly.settled (name, v) (List.mem_append_right _ (List.mem_cons_self ..))
      have greatest : ∀ member ∈ found, member.1 < name := fun member isIn =>
        (List.pairwise_append.mp orderly.sorted).2.2 member isIn (name, v)
          (List.mem_cons_self ..)
      rw [List.append_cons] at orderly ⊢
      rw [settledMembers, isSettled, insertMember_of_greatest greatest, ih orderly]

mutual
theorem settled_settled : ∀ v : Value, v.settled.settled = v.settled
  | null => rfl
  | bool _ => rfl
  | number _ => rfl
  | string _ => rfl
  | array items => congrArg array (settledItems_settledItems items)
  | object members =>
      congrArg object
        (settledMembers_of_orderly (orderly_settledMembers [] members ⟨.nil, nofun⟩))

theorem settledItems_settledItems
    : ∀ items : List Value, settledItems (settledItems items) = settledItems items
  | [] => rfl
  | item :: items => by
      rw [settledItems, settledItems, settled_settled item, settledItems_settledItems items]

theorem orderly_settledMembers
    : ∀ found raw : List (String × Value), Orderly found → Orderly (settledMembers found raw)
  | _, [], orderly => orderly
  | _, (_, member) :: raw, orderly =>
      orderly_settledMembers _ raw (orderly.insertMember (settled_settled member))
end

/-- No name stands twice among members that were settled. -/
theorem nodup_names_settledMembers (raw : List (String × Value))
    : ((settledMembers [] raw).map Prod.fst).Nodup := by
  have orderly : Orderly (settledMembers [] raw) := orderly_settledMembers [] raw ⟨.nil, nofun⟩
  rw [List.Nodup, List.pairwise_map]
  refine orderly.sorted.imp fun {first second} less same => ?_
  exact String.lt_irrefl second.1 (same ▸ less)

-----------------------------------------------------------------------------------------
-- Parts that are alike
-----------------------------------------------------------------------------------------

section

variable {α : Type} {write : α → Value} (items : List α) {members : List (String × Value)}

theorem settledItems_map (isSettled : ∀ x, (write x).settled = write x)
    : settledItems (items.map write) = items.map write := by
  induction items with
  | nil => rfl
  | cons x rest ih => rw [List.map_cons, settledItems, isSettled, ih]

theorem nestingOfItems_map_le {bound : Nat} (shallow : ∀ x, (write x).nesting ≤ bound)
    : nestingOfItems (items.map write) ≤ bound := by
  induction items with
  | nil => exact Nat.zero_le bound
  | cons x rest ih => exact Nat.max_le.mpr ⟨shallow x, ih⟩

theorem numbersOfItems_map (noNumbers : ∀ x, (write x).numbers = [])
    : numbersOfItems (items.map write) = [] := by
  induction items with
  | nil => rfl
  | cons x rest ih => rw [List.map_cons, numbersOfItems, noNumbers, ih, List.append_nil]

theorem nestingOfMembers_le {bound : Nat}
    (shallow : ∀ member ∈ members, member.2.nesting ≤ bound)
    : nestingOfMembers members ≤ bound := by
  induction members with
  | nil => exact Nat.zero_le bound
  | cons member others ih =>
      obtain ⟨first, rest⟩ := List.forall_mem_cons.mp shallow
      exact Nat.max_le.mpr ⟨first, ih rest⟩

theorem numbersOfMembers_eq_nil (noNumbers : ∀ member ∈ members, member.2.numbers = [])
    : numbersOfMembers members = [] := by
  induction members with
  | nil => rfl
  | cons member others ih =>
      obtain ⟨first, rest⟩ := List.forall_mem_cons.mp noNumbers
      rw [numbersOfMembers, first, ih rest, List.append_nil]

end

-----------------------------------------------------------------------------------------
-- Nesting and numbers
-----------------------------------------------------------------------------------------

theorem nestingOfMembers_insertMember_le (name : String) (v : Value)
    (members : List (String × Value))
    : nestingOfMembers (Json.insertMember name v members)
      ≤ max v.nesting (nestingOfMembers members) := by
  induction members with
  | nil => exact Nat.le_refl _
  | cons head others ih =>
      obtain ⟨other, old⟩ := head
      rw [Json.insertMember]
      split
      next => exact Nat.le_refl _
      next =>
        split
        next =>
          simp only [nestingOfMembers]
          omega
        next =>
          simp only [nestingOfMembers]
          omega

mutual
/-- Settling opens no brackets. -/
theorem nesting_settled_le : ∀ v : Value, v.settled.nesting ≤ v.nesting
  | null => Nat.le_refl _
  | bool _ => Nat.le_refl _
  | number _ => Nat.le_refl _
  | string _ => Nat.le_refl _
  | array items => Nat.succ_le_succ (nestingOfItems_settledItems_le items)
  | object members =>
      Nat.succ_le_succ
        (Nat.le_trans (nestingOfMembers_settledMembers_le [] members)
          (Nat.max_le.mpr ⟨Nat.zero_le _, Nat.le_refl _⟩))

theorem nestingOfItems_settledItems_le
    : ∀ items : List Value, nestingOfItems (settledItems items) ≤ nestingOfItems items
  | [] => Nat.le_refl _
  | item :: items => by
      have first := nesting_settled_le item
      have others := nestingOfItems_settledItems_le items
      simp only [settledItems, nestingOfItems]
      omega

theorem nestingOfMembers_settledMembers_le
    : ∀ found raw : List (String × Value),
        nestingOfMembers (settledMembers found raw)
          ≤ max (nestingOfMembers found) (nestingOfMembers raw)
  | found, [] => Nat.le_max_left ..
  | found, (name, member) :: raw => by
      have first := nesting_settled_le member
      have inserted := nestingOfMembers_insertMember_le name member.settled found
      have others := nestingOfMembers_settledMembers_le
        (Json.insertMember name member.settled found) raw
      simp only [settledMembers, nestingOfMembers]
      omega
end

theorem mem_numbersOfMembers_insertMember {name : String} {v : Value} {n : Number}
    {members : List (String × Value)}
    (isIn : n ∈ numbersOfMembers (Json.insertMember name v members))
    : n ∈ v.numbers ∨ n ∈ numbersOfMembers members := by
  induction members with
  | nil =>
      simp only [Json.insertMember, numbersOfMembers, List.append_nil] at isIn
      exact .inl isIn
  | cons head others ih =>
      obtain ⟨other, old⟩ := head
      rw [Json.insertMember] at isIn
      split at isIn
      next => exact List.mem_append.mp isIn
      next =>
        split at isIn
        next => exact (List.mem_append.mp isIn).imp_right (List.mem_append_right _)
        next =>
          rcases List.mem_append.mp isIn with isOld | isIn
          · exact .inr (List.mem_append_left _ isOld)
          · exact (ih isIn).imp_right (List.mem_append_right _)

mutual
/-- Settling makes no numbers. -/
theorem mem_numbers_of_settled
    : ∀ {v : Value} {n : Number}, n ∈ v.settled.numbers → n ∈ v.numbers
  | null, _, isIn => isIn
  | bool _, _, isIn => isIn
  | number _, _, isIn => isIn
  | string _, _, isIn => isIn
  | array _, _, isIn => mem_numbersOfItems_of_settled isIn
  | object _, _, isIn => (mem_numbersOfMembers_of_settled isIn).resolve_left nofun

theorem mem_numbersOfItems_of_settled
    : ∀ {items : List Value} {n : Number}, n ∈ numbersOfItems (settledItems items) →
        n ∈ numbersOfItems items
  | _ :: _, _, isIn =>
      (List.mem_append.mp isIn).elim
        (fun isFirst => List.mem_append_left _ (mem_numbers_of_settled isFirst))
        (fun isOther => List.mem_append_right _ (mem_numbersOfItems_of_settled isOther))

theorem mem_numbersOfMembers_of_settled
    : ∀ {found raw : List (String × Value)} {n : Number},
        n ∈ numbersOfMembers (settledMembers found raw) →
          n ∈ numbersOfMembers found ∨ n ∈ numbersOfMembers raw
  | _, [], _, isIn => .inl isIn
  | found, (name, member) :: raw, n, isIn => by
      rw [settledMembers] at isIn
      rcases mem_numbersOfMembers_of_settled isIn with isFound | isOther
      · rcases mem_numbersOfMembers_insertMember isFound with isMember | isFound
        · exact .inr (List.mem_append_left _ (mem_numbers_of_settled isMember))
        · exact .inl isFound
      · exact .inr (List.mem_append_right _ isOther)
end

end Value

end SatClient.Json
