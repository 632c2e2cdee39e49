import SatClient.Yaml.Event.Stream

/-! Reading events. A reader that takes some tokens and adds some events does so whatever follows
and whatever was found before, so that readers can be put one behind the other.
-/

namespace SatClient.Yaml

namespace EventReader

/-- A reader goes on where another one stops. -/
theorem run_bind {α β : Type} {reader : EventReader α} {next : α → EventReader β} {value : α}
    {before after : EventState} (runs : reader.run before = (.ok value, after))
    : (reader >>= next).run before = (next value).run after := by
  simp only [ExceptT.run] at runs
  simp only [ExceptT.run, Bind.bind, ExceptT.bind, ExceptT.mk, StateT.bind]
  rw [runs]
  rfl

/-- A reader takes tokens from the front of those that are left, and adds events. -/
def Takes (reader : EventReader Unit) (tokens : List Token) (events : List Event) : Prop :=
  ∀ placed rest fault before handles, placed.map PlacedToken.token = tokens →
    ∃ added : List PlacedEvent,
      added.map (·.event) = events
      ∧ reader.run ⟨placed ++ rest, fault, before, handles⟩
        = (.ok (), ⟨rest, fault, added.reverse ++ before, handles⟩)

/-- Two readers, one behind the other. -/
theorem Takes.bind {reader next : EventReader Unit} {tokens others : List Token}
    {events more : List Event} (first : Takes reader tokens events)
    (second : Takes next others more)
    : Takes (reader >>= fun _ => next) (tokens ++ others) (events ++ more) := by
  intro placed rest fault before handles words
  obtain ⟨front, back, rfl, isFront, isBack⟩ := List.map_eq_append_iff.mp words
  obtain ⟨added, isAdded, runs⟩ := first front (back ++ rest) fault before handles isFront
  obtain ⟨addedMore, isAddedMore, runsMore⟩ :=
    second back rest fault (added.reverse ++ before) handles isBack
  refine ⟨added ++ addedMore, by rw [List.map_append, isAdded, isAddedMore], ?_⟩
  rw [List.append_assoc, run_bind runs, runsMore, List.reverse_append, List.append_assoc]

/-- The first of some tokens, where it stands. -/
theorem exists_firstToken {placed : List PlacedToken} {token : Token} {tokens : List Token}
    (words : placed.map (·.token) = token :: tokens)
    : ∃ start stop others,
        placed = ⟨token, start, stop⟩ :: others ∧ others.map (·.token) = tokens := by
  obtain ⟨⟨_, start, stop⟩, others, rfl, rfl, isOthers⟩ := List.map_eq_cons_iff.mp words
  exact ⟨start, stop, others, rfl, isOthers⟩

/-- A scalar is a node. -/
theorem takes_scalar (fuel : Nat) (setting : Setting) (text : List Char) (style : Style)
    : Takes (node (fuel + 2) setting) [.scalar text style] [.scalar ⟨none, none⟩ text style] := by
  intro placed rest fault before handles words
  obtain ⟨start, stop, others, rfl, isOthers⟩ := exists_firstToken words
  obtain rfl := List.map_eq_nil_iff.mp isOthers
  exact ⟨[⟨.scalar ⟨none, none⟩ text style, start⟩], rfl, rfl⟩

/-- A mapping is a node. -/
theorem takes_mapping {fuel : Nat} {setting : Setting} {tokens : List Token} {events : List Event}
    (inBlock : setting.isBlock = true)
    (takes : ∀ opened, Takes (blockMapping fuel opened) tokens events)
    : Takes (node (fuel + 2) setting) (.blockMappingStart :: tokens)
        (.mappingStart ⟨none, none⟩ :: events) := by
  intro placed rest fault before handles words
  obtain ⟨start, stop, others, rfl, isOthers⟩ := exists_firstToken words
  obtain ⟨added, isAdded, runs⟩ :=
    takes start others rest fault (⟨.mappingStart ⟨none, none⟩, start⟩ :: before) handles isOthers
  refine ⟨⟨.mappingStart ⟨none, none⟩, start⟩ :: added, by rw [List.map_cons, isAdded], ?_⟩
  rw [List.reverse_cons, List.append_assoc]
  cases setting with
  | flow => cases inBlock
  | block => exact runs
  | blockOrList => exact runs

/-- The end of a mapping. -/
theorem takes_mappingEnd (fuel : Nat) (opened : Mark)
    : Takes (blockMapping (fuel + 1) opened) [.blockEnd] [.mappingEnd] := by
  intro placed rest fault before handles words
  obtain ⟨start, stop, others, rfl, isOthers⟩ := exists_firstToken words
  obtain rfl := List.map_eq_nil_iff.mp isOthers
  exact ⟨[⟨.mappingEnd, start⟩], rfl, rfl⟩

/-- The value of an entry. -/
theorem takes_value {fuel : Nat} {first : Token} {tokens : List Token} {events : List Event}
    (starts : endsBlockNode first = false)
    (takes : Takes (node fuel .blockOrList) (first :: tokens) events)
    : Takes (blockValue (fuel + 1)) (.value :: first :: tokens) events := by
  intro placed rest fault before handles words
  obtain ⟨start, stop, others, rfl, isOthers⟩ := exists_firstToken words
  obtain ⟨added, isAdded, runs⟩ := takes others rest fault before handles isOthers
  obtain ⟨start', stop', more, rfl, -⟩ := exists_firstToken isOthers
  refine ⟨added, isAdded, ?_⟩
  change (if endsBlockNode first then emitNothing stop else node fuel .blockOrList).run _ = _
  rw [starts]
  exact runs

/-- An entry with a word as its key. -/
theorem takes_entry {fuel : Nat} {opened : Mark} {first : Token} {value others : List Token}
    {events more : List Event} (key : List Char) (style : Style)
    (starts : endsBlockNode first = false)
    (takesValue : Takes (node (fuel + 1) .blockOrList) (first :: value) events)
    (takesOthers : Takes (blockMapping (fuel + 2) opened) others more)
    : Takes (blockMapping (fuel + 3) opened)
        ([.key, .scalar key style, .value] ++ (first :: value) ++ others)
        (.scalar ⟨none, none⟩ key style :: events ++ more) := by
  have takesKey := takes_scalar fuel .blockOrList key style
  have all := takesKey.bind ((takes_value starts takesValue).bind takesOthers)
  intro placed rest fault before handles words
  obtain ⟨start, stop, behindKey, rfl, isBehindKey⟩ := exists_firstToken words
  obtain ⟨added, isAdded, runs⟩ := all behindKey rest fault before handles isBehindKey
  obtain ⟨start', stop', behind, rfl, -⟩ := exists_firstToken isBehindKey
  exact ⟨added, isAdded, runs⟩

end EventReader

end SatClient.Yaml
