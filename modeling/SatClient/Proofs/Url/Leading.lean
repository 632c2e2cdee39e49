import SatClient.Proofs.Url.Authority

/-! Texts that lead to a server: a scheme of the network, a colon and slashes. What is put behind
such a text, or taken from its end, does not change what it leads over.
-/

namespace SatClient.Url

open Text (splitFirst?_eq_some_iff)

/-- A slash of either kind. -/
def isSlash (c : Char) : Bool := c == '/' || c == '\\'

/-- Whether a character may stand in the word for a scheme. -/
def isSchemeChar (c : Char) : Bool := c.isAlphanum || c == '+' || c == '-' || c == '.'

structure IsScheme (word : List Char) : Prop where
  plain : ∀ c ∈ word, isSchemeChar c = true
  first : ∃ c ∈ word.head?, c.isAlpha = true

/-- A text that leads to a server and what stands behind it. -/
def Leads (text : List Char) (scheme : Network) (rest : List Char) : Prop :=
  ∃ word after,
    text = word ++ ':' :: after
      ∧ IsScheme word
      ∧ Network.ofText? (String.ofList (word.map Char.toLower)) = some scheme
      ∧ after.dropWhile isSlash = rest

variable {text front more rest : List Char} {scheme : Network}

theorem readScheme?_eq_some_iff {lower : String} {after : List Char}
    : readScheme? text = some (lower, after)
      ↔ ∃ word, text = word ++ ':' :: after
          ∧ IsScheme word
          ∧ lower = String.ofList (word.map Char.toLower) := by
  have kind : (fun c : Char => c.isAlphanum || c == '+' || c == '-' || c == '.') = isSchemeChar :=
    rfl
  have colon : isSchemeChar ':' = false := by decide
  rw [readScheme?, kind, List.span_eq_takeWhile_dropWhile]
  constructor
  · intro found
    have whole := List.takeWhile_append_dropWhile (p := isSchemeChar) (l := text)
    have plain : ∀ c ∈ text.takeWhile isSchemeChar, isSchemeChar c = true :=
      fun c member => List.mem_takeWhile_imp member
    generalize text.takeWhile isSchemeChar = word at found whole plain
    generalize text.dropWhile isSchemeChar = behind at found whole
    dsimp only at found
    split at found
    · rename_i first others next
      split at found
      · rename_i letter
        obtain ⟨rfl, rfl⟩ := Prod.mk.inj (Option.some.inj found)
        exact ⟨first :: others, whole.symm, ⟨plain, first, rfl, letter⟩, rfl⟩
      · cases found
    · cases found
  · rintro ⟨word, rfl, ⟨plain, first, isFirst, letter⟩, rfl⟩
    rw [List.takeWhile_append_of_pos plain, List.dropWhile_append_of_pos plain]
    cases word with
    | nil => cases isFirst
    | cons c others =>
        obtain rfl : c = first := by simpa using isFirst
        simp [colon, letter]

theorem IsScheme.colon_not_mem {word : List Char} (form : IsScheme word) : ':' ∉ word :=
  fun member => absurd (form.plain _ member) (by decide)

theorem Leads.unique {scheme' : Network} {rest' : List Char} (leads : Leads text scheme rest)
    (leads' : Leads text scheme' rest')
    : scheme = scheme' ∧ rest = rest' := by
  obtain ⟨word, after, rfl, form, isNetwork, rfl⟩ := leads
  obtain ⟨word', after', same, form', isNetwork', rfl⟩ := leads'
  obtain ⟨rfl, rfl⟩ := Prod.mk.inj (Option.some.inj
    ((splitFirst?_eq_some_iff.mpr ⟨same, form'.colon_not_mem⟩).symm.trans
      (splitFirst?_eq_some_iff.mpr ⟨rfl, form.colon_not_mem⟩)))
  exact ⟨Option.some.inj (isNetwork.symm.trans isNetwork'), rfl⟩

theorem Leads.suffix (leads : Leads text scheme rest) : rest <:+ text := by
  obtain ⟨word, after, rfl, -, -, rfl⟩ := leads
  exact (List.dropWhile_suffix isSlash).trans ⟨word ++ [':'], by simp⟩

/-- What is put behind a text that leads to a server stands behind the server. -/
theorem Leads.append (leads : Leads front scheme rest) (some : rest ≠ []) (more : List Char)
    : Leads (front ++ more) scheme (rest ++ more) := by
  obtain ⟨word, after, rfl, form, isNetwork, rfl⟩ := leads
  refine ⟨word, after ++ more, by simp, form, isNetwork, ?_⟩
  rw [List.dropWhile_append, if_neg (by simpa using some)]

/-- What is put behind slashes that lead nowhere is where they lead. -/
theorem Leads.append_nil (leads : Leads front scheme []) (more : List Char)
    : Leads (front ++ more) scheme (more.dropWhile isSlash) := by
  obtain ⟨word, after, rfl, form, isNetwork, nowhere⟩ := leads
  refine ⟨word, after ++ more, by simp, form, isNetwork, ?_⟩
  rw [List.dropWhile_append, nowhere]
  rfl

/-- A text without a colon can be taken from the end of one that leads to a server. -/
theorem Leads.of_append (leads : Leads (front ++ more) scheme rest) (plain : ':' ∉ more)
    : ∃ before, Leads front scheme before := by
  obtain ⟨word, after, whole, form, isNetwork, -⟩ := leads
  rcases List.append_eq_append_iff.mp whole with ⟨others, rfl, last⟩ | ⟨others, rfl, last⟩
  · exact absurd (last ▸ by simp) plain
  · cases others with
    | nil => exact absurd (by rw [List.nil_append] at last; simp [← last]) plain
    | cons c others =>
        obtain ⟨rfl, -⟩ := List.cons.inj last
        exact ⟨_, word, others, rfl, form, isNetwork, rfl⟩

-----------------------------------------------------------------------------------------
-- Places that are reached
-----------------------------------------------------------------------------------------

/-- A text that leads to a place of a server. -/
def Reaches (text : List Char) (scheme : Network) (place : Place) : Prop :=
  ∃ rest, Leads text scheme rest ∧ readPlace scheme rest = .ok place

theorem Reaches.unique {scheme' : Network} {place place' : Place}
    (reaches : Reaches text scheme place) (reaches' : Reaches text scheme' place')
    : scheme = scheme' ∧ place = place' := by
  obtain ⟨rest, leads, found⟩ := reaches
  obtain ⟨rest', leads', found'⟩ := reaches'
  obtain ⟨rfl, rfl⟩ := leads.unique leads'
  exact ⟨rfl, Except.ok.inj (found.symm.trans found')⟩

theorem parse_eq_ok_server_iff {s : String} {place : Place}
    : Url.parse s = .ok (.server scheme place)
      ↔ Reaches (cleaned s.toList) scheme place := by
  have kind : (fun c : Char => c == '/' || c == '\\') = isSlash := rfl
  rw [parse]
  constructor
  · intro found
    split at found
    · cases found
    · rename_i lower after isScheme
      obtain ⟨word, whole, form, rfl⟩ := readScheme?_eq_some_iff.mp isScheme
      split at found
      · rename_i network isNetwork
        cases read : readPlace network (after.dropWhile isSlash) with
        | error fault => rw [kind, read] at found; cases found
        | ok reached =>
            rw [kind, read] at found
            obtain ⟨rfl, rfl⟩ := Url.server.inj (Except.ok.inj found)
            exact ⟨_, ⟨word, after, whole, form, isNetwork, rfl⟩, read⟩
      · split at found
        · obtain ⟨_, -, found⟩ := exists_of_bind_eq_ok found
          cases found
        · split at found
          · obtain ⟨_, -, found⟩ := exists_of_bind_eq_ok found
            cases found
          · cases found
  · rintro ⟨rest, ⟨word, after, whole, form, isNetwork, rfl⟩, read⟩
    rw [readScheme?_eq_some_iff.mpr ⟨word, whole, form, rfl⟩]
    dsimp only
    rw [isNetwork]
    dsimp only
    rw [kind, read]
    rfl

/-- A text that leads to an authority, which names a server, and to what stands behind it. -/
structure Names (text : List Char) (scheme : Network) (bare : Place)
    (authority behind : List Char) : Prop where
  whole : IsAuthority authority
  apart : IsBehind behind
  leads : Leads text scheme (authority ++ behind)
  named : readPlace scheme authority = .ok bare

theorem reaches_iff {place : Place}
    : Reaches text scheme place
      ↔ ∃ bare authority behind,
          Names text scheme bare authority behind ∧ place = bare.reaching behind := by
  constructor
  · rintro ⟨rest, leads, found⟩
    obtain ⟨authority, behind, rfl, whole, apart⟩ := exists_authority rest
    obtain ⟨bare, named, same⟩ := exists_of_readPlace_append whole apart found
    exact ⟨bare, authority, behind, ⟨whole, apart, leads, named⟩, same⟩
  · rintro ⟨bare, authority, behind, names, rfl⟩
    refine ⟨_, names.leads, ?_⟩
    rw [readPlace_append scheme names.whole names.apart, names.named]
    rfl

/-- No scheme of the network is read without a server. -/
theorem ofText?_of_parse {s other : String} (parsed : Url.parse s = .ok (.other other))
    : Network.ofText? other = none := by
  rw [parse] at parsed
  split at parsed
  · cases parsed
  · split at parsed
    · generalize readPlace _ _ = reached at parsed
      cases reached <;> cases parsed
    · rename_i lower after isScheme unknown
      split at parsed
      · obtain ⟨_, -, same⟩ := exists_of_bind_eq_ok parsed
        cases same
        exact unknown
      · split at parsed
        · obtain ⟨_, -, same⟩ := exists_of_bind_eq_ok parsed
          cases same
          exact unknown
        · cases parsed
          exact unknown

theorem parse_congr {s t : String} (same : cleaned s.toList = cleaned t.toList)
    : Url.parse s = Url.parse t := by
  rw [parse, parse, same]

variable {bare : Place} {authority behind : List Char}

theorem Names.reaches (names : Names text scheme bare authority behind)
    : Reaches text scheme (bare.reaching behind) :=
  reaches_iff.mpr ⟨bare, authority, behind, names, rfl⟩

theorem Names.ne_nil (names : Names text scheme bare authority behind) : authority ≠ [] :=
  (isNamed_of_readPlace names.whole names.named).some

/-- A text ends like the authority that it leads to. -/
theorem Names.visible (names : Names text scheme bare authority [])
    : ∀ c ∈ text.getLast?, 0x20 < c.toNat := by
  intro c last
  obtain ⟨others, split⟩ := names.leads.suffix
  rw [List.append_nil] at split
  rw [← split, List.getLast?_append_of_ne_nil _ names.ne_nil] at last
  exact (isNamed_of_readPlace names.whole names.named).visible c last

theorem Names.append (names : Names text scheme bare authority behind)
    (apart : IsBehind (behind ++ more))
    : Names (text ++ more) scheme bare authority (behind ++ more) where
  whole := names.whole
  apart := apart
  leads := by
    have some : authority ++ behind ≠ [] := by simp [names.ne_nil]
    have leads := names.leads.append some more
    rwa [List.append_assoc] at leads
  named := names.named

/-- What stands behind a text that leads to a server does not change how the text names it. -/
theorem Leads.exists_names {place : Place} {before : List Char}
    (leads : Leads front scheme before) (some : before ≠ []) (apart : IsBehind more)
    (reaches : Reaches (front ++ more) scheme place)
    : ∃ bare authority behind,
        before = authority ++ behind
          ∧ Names front scheme bare authority behind
          ∧ place = bare.reaching (behind ++ more) := by
  obtain ⟨rest, whole, found⟩ := reaches
  obtain ⟨-, rfl⟩ := whole.unique (leads.append some more)
  obtain ⟨authority, behind, rfl, isAuthority, starts⟩ := exists_authority before
  rw [List.append_assoc] at found
  obtain ⟨bare, named, same⟩ :=
    exists_of_readPlace_append isAuthority (starts.append apart) found
  exact ⟨bare, authority, behind, rfl, ⟨isAuthority, starts, leads, named⟩, same⟩

/-- Slashes at the end of a text are no part of what names the server. -/
theorem Reaches.exists_names_of_slashes {place : Place} {count : Nat}
    (reaches : Reaches (front ++ List.replicate count '/') scheme place)
    : ∃ bare authority behind,
        Names front scheme bare authority behind
          ∧ place = bare.reaching (behind ++ List.replicate count '/') := by
  obtain ⟨rest, leads, found⟩ := reaches
  obtain ⟨before, shorter⟩ := leads.of_append (by simp [List.mem_replicate])
  have some : before ≠ [] := by
    rintro rfl
    have nowhere : (List.replicate count '/').dropWhile isSlash = [] := by
      simp [isSlash]
    obtain ⟨-, rfl⟩ := leads.unique (nowhere ▸ shorter.append_nil _)
    exact (isNamed_of_readPlace isAuthority_nil found).some rfl
  obtain ⟨bare, authority, behind, -, names, same⟩ :=
    shorter.exists_names some (isBehind_replicate count) ⟨rest, leads, found⟩
  exact ⟨bare, authority, behind, names, same⟩

end SatClient.Url
