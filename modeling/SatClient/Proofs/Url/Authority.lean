import Mathlib.Data.List.TakeDrop
import SatClient.Proofs.Bind
import SatClient.Proofs.Url.Faint
import SatClient.Url.Basic

/-! The part of a URL that names a server, apart from what stands behind it. The credentials, the
host and the port are read alike whatever follows, and the path, the query and the fragment come
from what follows alone.
-/

namespace SatClient.Url

/-- A text without the characters that end the part that names a server. -/
def IsAuthority (text : List Char) : Prop := ∀ c ∈ text, endsAuthority true c = false

/-- What can stand behind an authority: nothing, or a character that ends it and any text. -/
def IsBehind (rest : List Char) : Prop := ∀ c ∈ rest.head?, endsAuthority true c = true

theorem isAuthority_nil : IsAuthority [] := by simp [IsAuthority]

theorem isBehind_nil : IsBehind [] := by simp [IsBehind]

/-- A place with another text behind its authority. -/
def Place.reaching (place : Place) (rest : List Char) : Place :=
  let (text, fragment) := cut '#' rest
  let (path, query) := cut '?' text
  { place with
    path := Path.parse path
    query := query.map Part.query.escaped
    fragment := fragment.map Part.fragment.escaped }

/-- What follows the credentials in a URL that names a server. -/
def readLocated (scheme : Network) (credentials : Credentials) (text : List Char)
    : Except Fault Place := do
  let (host, text) := spanHost true false text
  if host.isEmpty then throw .emptyHost
  let host ← Host.parse host
  let (port, text) ← readPortPart text
  let port := if port = some scheme.port then none else port
  return Place.reaching ⟨credentials, host, port, [], none, none⟩ text

theorem readPlace_eq (scheme : Network) (text : List Char)
    : readPlace scheme text
      = readCredentials true text >>= fun (credentials, text) =>
          readLocated scheme credentials text :=
  rfl

variable {text rest : List Char}

-----------------------------------------------------------------------------------------
-- Runs of characters with more behind them
-----------------------------------------------------------------------------------------

/-- A run of characters of a kind that nothing behind a text goes on with. -/
theorem takeWhile_append_of_head {kind : Char → Bool} (text : List Char)
    (stops : ∀ c ∈ rest.head?, kind c = false)
    : (text ++ rest).takeWhile kind = text.takeWhile kind
      ∧ (text ++ rest).dropWhile kind = text.dropWhile kind ++ rest := by
  induction text with
  | nil =>
      cases rest with
      | nil => exact ⟨rfl, rfl⟩
      | cons c rest => simp [stops c rfl]
  | cons c text ih =>
      rw [List.cons_append, List.takeWhile_cons, List.dropWhile_cons, List.takeWhile_cons,
        List.dropWhile_cons, ih.1, ih.2]
      split <;> simp

theorem ne_of_not_mem {c : Char} (absent : c ∉ text) : ∀ d ∈ text, decide (d ≠ c) = true := by
  intro d member
  have other : d ≠ c := fun same => absent (same ▸ member)
  simpa using other

theorem IsBehind.not_of {kind : Char → Bool} (behind : IsBehind rest)
    (other : ∀ c, endsAuthority true c = true → kind c = false)
    : ∀ c ∈ rest.head?, kind c = false :=
  fun c member => other c (behind c member)

theorem IsBehind.append_of_ne_nil (behind : IsBehind rest) (some : rest ≠ []) (more : List Char)
    : IsBehind (rest ++ more) := by
  intro c first
  rw [List.head?_append_of_ne_nil _ some] at first
  exact behind c first

theorem IsBehind.append {more : List Char} (behind : IsBehind rest) (next : IsBehind more)
    : IsBehind (rest ++ more) := by
  cases rest with
  | nil => exact next
  | cons c others => exact behind.append_of_ne_nil (List.cons_ne_nil c others) more

theorem isBehind_cons_slash (text : List Char) : IsBehind ('/' :: text) := by
  intro c member
  obtain rfl : '/' = c := by simpa using member
  decide

theorem isBehind_replicate (count : Nat) : IsBehind (List.replicate count '/') := by
  cases count with
  | zero => simp [IsBehind]
  | succ count => exact isBehind_cons_slash _

theorem cases_of_endsAuthority {c : Char} (ends : endsAuthority true c = true)
    : c = '/' ∨ c = '\\' ∨ c = '?' ∨ c = '#' := by
  simp only [endsAuthority, Bool.true_and, Bool.or_eq_true, beq_iff_eq] at ends
  tauto

/-- Every text is an authority and what stands behind it. -/
theorem exists_authority (text : List Char)
    : ∃ authority behind, text = authority ++ behind ∧ IsAuthority authority ∧ IsBehind behind := by
  refine ⟨text.takeWhile (!endsAuthority true ·), text.dropWhile (!endsAuthority true ·),
    List.takeWhile_append_dropWhile.symm, fun c member => ?_, fun c member => ?_⟩
  · simpa using List.mem_takeWhile_imp member
  · have ends := List.head?_dropWhile_not (!endsAuthority true ·) text
    rw [Option.mem_def.mp member] at ends
    simpa using ends

theorem IsAuthority.append_faint {tail : List Char} (authority : IsAuthority text)
    (tailed : FaintTail tail)
    : IsAuthority (text ++ tail) := by
  intro c member
  rcases List.mem_append.mp member with inside | faint
  · exact authority c inside
  · have other (d : Char) (visible : 0x20 < d.toNat ∧ d.toNat < 0x80) : c ≠ d :=
      (tailed.faint c faint).ne visible
    simp [endsAuthority, other '/' (by decide), other '?' (by decide), other '#' (by decide),
      other '\\' (by decide)]

-----------------------------------------------------------------------------------------
-- Hosts and ports
-----------------------------------------------------------------------------------------

theorem spanHost_append (behind : IsBehind rest) (inBrackets : Bool) (text : List Char)
    : spanHost true inBrackets (text ++ rest)
      = ((spanHost true inBrackets text).1, (spanHost true inBrackets text).2 ++ rest) := by
  induction text generalizing inBrackets with
  | nil =>
      cases rest with
      | nil => rfl
      | cons c rest =>
          have ends := behind c rfl
          simp [spanHost, ends]
  | cons c text ih =>
      rw [List.cons_append, spanHost, spanHost]
      split
      · rfl
      · simp only [ih]

/-- The host and what follows it make up the text, and of an authority only a colon ends the host.
-/
theorem spanHost_spec (authority : IsAuthority text) (inBrackets : Bool)
    : (spanHost true inBrackets text).1 ++ (spanHost true inBrackets text).2 = text
      ∧ ∀ c ∈ (spanHost true inBrackets text).2.head?, c = ':' := by
  induction text generalizing inBrackets with
  | nil => exact ⟨rfl, by simp [spanHost]⟩
  | cons c text ih =>
      have first : endsAuthority true c = false := authority c List.mem_cons_self
      have others : IsAuthority text := fun d member => authority d (List.mem_cons_of_mem c member)
      rw [spanHost]
      split
      · rename_i ends
        simp only [first, Bool.false_or, Bool.and_eq_true, beq_iff_eq] at ends
        exact ⟨rfl, by simp [ends.1]⟩
      · obtain ⟨whole, ends⟩ :=
          ih others (if c == '[' then true else if c == ']' then false else inBrackets)
        exact ⟨by simpa using whole, ends⟩

theorem not_isDigit_of_ends {c : Char} (ends : endsAuthority true c = true)
    : c.isDigit = false := by
  rcases cases_of_endsAuthority ends with rfl | rfl | rfl | rfl <;> decide

/-- In an authority only digits make up a port. -/
theorem readPort_spec (authority : IsAuthority text) (behind : IsBehind rest)
    : readPort (text ++ rest) = (fun read => (read.1, rest)) <$> readPort text
      ∧ ∀ read, readPort text = .ok read → ∀ c ∈ text, c.isDigit = true := by
  obtain ⟨digits, after⟩ :=
    takeWhile_append_of_head text (behind.not_of fun c => not_isDigit_of_ends)
  simp only [readPort, List.span_eq_takeWhile_dropWhile, digits, after]
  cases left : text.dropWhile Char.isDigit with
  | nil =>
      have all : ∀ c ∈ text, c.isDigit = true := List.dropWhile_eq_nil_iff.mp left
      have quiet : rest.head?.any (!endsAuthority true ·) = false := by
        cases rest with
        | nil => rfl
        | cons c rest => simp [behind c rfl]
      refine ⟨?_, fun _ _ => all⟩
      rw [List.nil_append, quiet]
      split <;> rfl
  | cons c others =>
      have member : c ∈ text := (List.dropWhile_sublist _).subset (by rw [left]; simp)
      have loud : endsAuthority true c = false := authority c member
      simp only [List.cons_append, List.head?_cons, Option.any_some, loud]
      constructor
      · split <;> rfl
      · intro read done
        split at done <;> simp at done

theorem readPortPart_spec (authority : IsAuthority text) (mark : ∀ c ∈ text.head?, c = ':')
    (behind : IsBehind rest)
    : readPortPart (text ++ rest) = (fun read => (read.1, rest)) <$> readPortPart text
      ∧ ∀ read, readPortPart text = .ok read → ∀ c ∈ text, 0x20 < c.toNat := by
  cases text with
  | nil =>
      refine ⟨?_, fun _ _ c member => absurd member List.not_mem_nil⟩
      have noMark : ∀ others, rest ≠ ':' :: others := by
        rintro others rfl
        exact absurd (behind ':' rfl) (by decide)
      rw [List.nil_append, readPortPart.eq_2 _ noMark]
      rfl
  | cons c others =>
      obtain rfl : c = ':' := mark c rfl
      have next : IsAuthority others :=
        fun d member => authority d (List.mem_cons_of_mem ':' member)
      obtain ⟨same, digits⟩ := readPort_spec next behind
      refine ⟨same, fun read done d member => ?_⟩
      rcases List.mem_cons.mp member with rfl | later
      · decide
      · have digit := digits read done d later
        rw [Char.isDigit, Bool.and_eq_true, decide_eq_true_eq] at digit
        exact Nat.lt_of_lt_of_le (by decide) (UInt32.le_iff_toNat_le.mp digit.1)

theorem Place.reaching_congr {place place' : Place}
    (credentials : place.credentials = place'.credentials) (host : place.host = place'.host)
    (port : place.port = place'.port) (rest : List Char)
    : place.reaching rest = place'.reaching rest := by
  simp only [reaching, credentials, host, port]

/-- What stands behind an authority gives a place its path, query and fragment. -/
theorem readLocated_append (scheme : Network) (credentials : Credentials)
    (authority : IsAuthority text) (behind : IsBehind rest)
    : readLocated scheme credentials (text ++ rest)
      = (·.reaching rest) <$> readLocated scheme credentials text := by
  obtain ⟨whole, mark⟩ := spanHost_spec authority false
  rw [readLocated, readLocated, spanHost_append behind]
  generalize spanHost true false text = located at whole mark ⊢
  obtain ⟨host, port⟩ := located
  dsimp only at whole mark ⊢
  have part : IsAuthority port := fun c member => authority c (by simp [← whole, member])
  rw [(readPortPart_spec part mark behind).1]
  cases host.isEmpty with
  | true => rfl
  | false =>
      cases Host.parse host with
      | error fault => rfl
      | ok found =>
          cases readPortPart port with
          | error fault => rfl
          | ok read => rfl

/-- A place that a text names on its own, with nothing behind it. The text ends with a visible
character.
-/
structure IsNamed (text : List Char) (credentials : Credentials) (place : Place) : Prop where
  credentials : place.credentials = credentials
  some : text ≠ []
  bare : place.reaching [] = place
  visible : ∀ c ∈ text.getLast?, 0x20 < c.toNat

theorem isNamed_of_readLocated {scheme : Network} {credentials : Credentials} {place : Place}
    (authority : IsAuthority text)
    (found : readLocated scheme credentials text = .ok place)
    : IsNamed text credentials place := by
  obtain ⟨whole, mark⟩ := spanHost_spec authority false
  rw [readLocated] at found
  generalize spanHost true false text = located at whole mark found
  obtain ⟨host, port⟩ := located
  dsimp only at whole mark found
  subst whole
  have part : IsAuthority port := fun c member => authority c (List.mem_append_right host member)
  obtain ⟨alone, visible⟩ := readPortPart_spec part mark isBehind_nil
  rw [List.append_nil] at alone
  cases empty : host.isEmpty with
  | true => rw [empty] at found; cases found
  | false =>
      simp only [empty, Bool.false_eq_true, if_false] at found
      obtain ⟨address, isHost, found⟩ := exists_of_bind_eq_ok found
      obtain ⟨read, isPort, found⟩ := exists_of_bind_eq_ok found
      rw [isPort] at alone
      have nothing : read.2 = [] := congrArg Prod.snd (Except.ok.inj alone)
      have some : host ≠ [] := by simpa using empty
      rw [nothing] at found
      obtain rfl := Except.ok.inj found
      refine ⟨rfl, by simp [some], rfl, fun c last => ?_⟩
      cases port with
      | nil => exact Host.last_of_parse isHost (by simpa using last)
      | cons d others =>
          rw [List.getLast?_append_of_ne_nil _ (List.cons_ne_nil d others)] at last
          exact visible read isPort c (List.mem_of_getLast? last)

-----------------------------------------------------------------------------------------
-- Credentials
-----------------------------------------------------------------------------------------

theorem splitLast?_eq_some_iff {c : Char} {before after : List Char}
    : splitLast? c text = some (before, after) ↔ text = before ++ c :: after ∧ c ∉ after := by
  have cut {before after : List Char} (absent : c ∉ after)
      : splitLast? c (before ++ c :: after) = some (before, after) := by
    have passes : ∀ d ∈ after.reverse, decide (d ≠ c) = true :=
      ne_of_not_mem (by simpa using absent)
    have run : (before ++ c :: after).reverse.takeWhile (· ≠ c) = after.reverse := by
      rw [List.reverse_append, List.reverse_cons, List.append_assoc,
        List.takeWhile_append_of_pos passes]
      simp
    have count : before.length + (after.length + 1) - after.length - 1 = before.length := by omega
    rw [splitLast?, if_pos (by simp), run]
    simp [count]
  constructor
  · intro found
    have member : c ∈ text := by
      by_contra absent
      simp [splitLast?, absent] at found
    obtain ⟨after, before, whole, absent⟩ :=
      List.eq_append_cons_of_mem (List.mem_reverse.mpr member)
    rw [List.reverse_eq_iff, List.reverse_append, List.reverse_cons, List.append_assoc] at whole
    have same : splitLast? c (before.reverse ++ c :: after.reverse)
        = some (before.reverse, after.reverse) :=
      cut (by simpa using absent)
    rw [whole] at found ⊢
    rw [List.singleton_append, same] at found
    obtain ⟨rfl, rfl⟩ := Prod.mk.inj (Option.some.inj found)
    exact ⟨rfl, by simpa using absent⟩
  · rintro ⟨rfl, absent⟩
    exact cut absent

theorem splitLast?_eq_none_iff {c : Char} : splitLast? c text = none ↔ c ∉ text := by
  simp [splitLast?]

theorem readCredentials_append (authority : IsAuthority text) (behind : IsBehind rest)
    : readCredentials true (text ++ rest)
      = match splitLast? '@' text with
        | none => .ok (⟨[], []⟩, text ++ rest)
        | some (before, after) =>
            if before.isEmpty && after.isEmpty && !rest.isEmpty then .error .emptyHost
            else .ok (.parse before, after ++ rest) := by
  have goes : ∀ c ∈ text, (!endsAuthority true c) = true := by
    intro c member
    simp [authority c member]
  have stops : ∀ c ∈ rest.head?, (!endsAuthority true c) = false :=
    behind.not_of fun c ends => by simp [ends]
  obtain ⟨all, others⟩ := takeWhile_append_of_head text stops
  rw [List.takeWhile_eq_self_iff.mpr goes] at all
  rw [List.dropWhile_eq_nil_iff.mpr goes] at others
  rw [readCredentials, List.span_eq_takeWhile_dropWhile, all, others]
  rfl

def credentialsOf (authority : List Char) : Credentials :=
  (splitLast? '@' authority).elim ⟨[], []⟩ fun (before, _) => .parse before

/-- The host and the port that an authority holds. -/
def locatedOf (authority : List Char) : List Char :=
  (splitLast? '@' authority).elim authority Prod.snd

theorem credentialsOf_append {more : List Char} (absent : '@' ∉ more)
    : credentialsOf (text ++ more) = credentialsOf text := by
  rw [credentialsOf, credentialsOf]
  cases found : splitLast? '@' text with
  | none =>
      have nowhere : '@' ∉ text ++ more := by
        simp [splitLast?_eq_none_iff.mp found, absent]
      rw [splitLast?_eq_none_iff.mpr nowhere]
  | some pair =>
      obtain ⟨before, after⟩ := pair
      obtain ⟨rfl, notAfter⟩ := splitLast?_eq_some_iff.mp found
      have split : splitLast? '@' (before ++ '@' :: after ++ more) = some (before, after ++ more) :=
        splitLast?_eq_some_iff.mpr ⟨by simp, by simp [notAfter, absent]⟩
      rw [split]
      rfl

theorem locatedOf_suffix (authority : List Char) : locatedOf authority <:+ authority := by
  rw [locatedOf]
  cases found : splitLast? '@' authority with
  | none => exact List.suffix_refl authority
  | some pair =>
      obtain ⟨before, after⟩ := pair
      obtain ⟨rfl, -⟩ := splitLast?_eq_some_iff.mp found
      exact ⟨before ++ ['@'], by simp⟩

/-- Credentials without a host are refused in any case. -/
theorem readPlace_authority (scheme : Network) (authority : IsAuthority text)
    (behind : IsBehind rest)
    : readPlace scheme (text ++ rest)
      = readLocated scheme (credentialsOf text) (locatedOf text ++ rest) := by
  rw [readPlace_eq, readCredentials_append authority behind, credentialsOf, locatedOf]
  cases found : splitLast? '@' text with
  | none => rfl
  | some pair =>
      obtain ⟨before, after⟩ := pair
      dsimp only
      split
      · rename_i alone
        simp only [Bool.and_eq_true, List.isEmpty_iff] at alone
        obtain ⟨⟨rfl, rfl⟩, -⟩ := alone
        exact (readLocated_append scheme (.parse []) isAuthority_nil behind).symm
      · rfl

/-- What stands behind an authority does not change how it is read. -/
theorem readPlace_append (scheme : Network) (authority : IsAuthority text)
    (behind : IsBehind rest)
    : readPlace scheme (text ++ rest) = (·.reaching rest) <$> readPlace scheme text := by
  have alone := readPlace_authority scheme authority isBehind_nil
  rw [List.append_nil, List.append_nil] at alone
  have part : IsAuthority (locatedOf text) :=
    fun c member => authority c ((locatedOf_suffix text).subset member)
  rw [alone, readPlace_authority scheme authority behind, readLocated_append scheme _ part behind]

theorem exists_of_readPlace_append {scheme : Network} {place : Place}
    (authority : IsAuthority text) (behind : IsBehind rest)
    (found : readPlace scheme (text ++ rest) = .ok place)
    : ∃ bare, readPlace scheme text = .ok bare ∧ place = bare.reaching rest := by
  rw [readPlace_append scheme authority behind] at found
  cases named : readPlace scheme text with
  | error fault => rw [named] at found; cases found
  | ok bare =>
      rw [named] at found
      exact ⟨bare, rfl, (Except.ok.inj found).symm⟩

theorem isNamed_of_readPlace {scheme : Network} {place : Place} (authority : IsAuthority text)
    (found : readPlace scheme text = .ok place)
    : IsNamed text (credentialsOf text) place := by
  have alone := readPlace_authority scheme authority isBehind_nil
  rw [List.append_nil, List.append_nil, found] at alone
  obtain ⟨before, whole⟩ := locatedOf_suffix text
  have part : IsAuthority (locatedOf text) := fun c member =>
    authority c ((locatedOf_suffix text).subset member)
  have named := isNamed_of_readLocated part alone.symm
  refine ⟨named.credentials, fun none => ?_, named.bare, fun c last => named.visible c ?_⟩
  · exact named.some (List.eq_nil_of_suffix_nil (none ▸ locatedOf_suffix text))
  · rwa [← whole, List.getLast?_append_of_ne_nil _ named.some] at last

/-- Of an authority, a text of faint characters behind it can only change the host. -/
theorem eq_of_readPlace_faint {scheme : Network} {bare place : Place} {tail : List Char}
    (authority : IsAuthority text) (tailed : FaintTail tail)
    (named : readPlace scheme text = .ok bare)
    (found : readPlace scheme (text ++ tail) = .ok place)
    (host : bare.host = place.host) (port : bare.port = place.port)
    : bare = place := by
  have isNamed := isNamed_of_readPlace authority named
  have isFound := isNamed_of_readPlace (authority.append_faint tailed) found
  have credentials : bare.credentials = place.credentials := by
    rw [isNamed.credentials, isFound.credentials, credentialsOf_append (tailed.not_mem (by decide))]
  calc
    bare = bare.reaching [] := isNamed.bare.symm
    _ = place.reaching [] := Place.reaching_congr credentials host port []
    _ = place := isFound.bare

-----------------------------------------------------------------------------------------
-- Behind an authority
-----------------------------------------------------------------------------------------

theorem cut_fst (c : Char) (text : List Char) : (cut c text).1 = text.takeWhile (· ≠ c) := by
  rw [cut, List.span_eq_takeWhile_dropWhile]
  split <;> rename_i same <;> rw [← (Prod.mk.inj same).1]

theorem cut_append_cons {c : Char} {before : List Char} (absent : c ∉ before)
    (after : List Char)
    : cut c (before ++ c :: after) = (before, some after) := by
  have passes := ne_of_not_mem absent
  rw [cut, List.span_eq_takeWhile_dropWhile, List.takeWhile_append_of_pos passes,
    List.dropWhile_append_of_pos passes]
  simp

theorem cut_of_not_mem {c : Char} (absent : c ∉ text) : cut c text = (text, none) := by
  have passes := ne_of_not_mem absent
  rw [cut, List.span_eq_takeWhile_dropWhile, List.takeWhile_eq_self_iff.mpr passes,
    List.dropWhile_eq_nil_iff.mpr passes]

theorem Place.reaching_unmarked (place : Place) (noQuery : '?' ∉ rest) (noFragment : '#' ∉ rest)
    : place.reaching rest
      = { place with path := Path.parse rest, query := none, fragment := none } := by
  rw [reaching, cut_of_not_mem noFragment]
  dsimp only
  rw [cut_of_not_mem noQuery]
  rfl

/-- A query or a fragment takes all that is put behind it. -/
theorem Place.reaching_marked (place : Place) (marked : '?' ∈ rest ∨ '#' ∈ rest)
    : ¬((place.reaching rest).query = none ∧ (place.reaching rest).fragment = none)
      ∧ ∀ more, (place.reaching (rest ++ more)).path = (place.reaching rest).path := by
  by_cases fragment : '#' ∈ rest
  · obtain ⟨before, after, rfl, absent⟩ := List.eq_append_cons_of_mem fragment
    refine ⟨?_, fun more => ?_⟩
    · simp [reaching, cut_append_cons absent]
    · rw [List.append_assoc, List.cons_append, reaching, reaching, cut_append_cons absent,
        cut_append_cons absent]
  · obtain ⟨before, after, rfl, absent⟩ :=
      List.eq_append_cons_of_mem (marked.resolve_right fragment)
    refine ⟨?_, fun more => ?_⟩
    · simp [reaching, cut_of_not_mem fragment, cut_append_cons absent]
    · have first : (cut '#' (before ++ '?' :: after ++ more)).1
          = before ++ '?' :: (after ++ (cut '#' more).1) := by
        rw [cut_fst, cut_fst, List.takeWhile_append_of_pos (ne_of_not_mem fragment)]
        simp
      rw [reaching, reaching]
      dsimp only
      rw [first, cut_of_not_mem fragment, cut_append_cons absent, cut_append_cons absent]

end SatClient.Url
