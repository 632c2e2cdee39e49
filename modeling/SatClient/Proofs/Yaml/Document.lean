import SatClient.Proofs.Yaml.Event.Reading
import SatClient.Proofs.Yaml.Token.Groups
import SatClient.Yaml.Document

/-! Reading groups of entries as a document. It holds a mapping of mappings, and nothing follows it.
-/

namespace SatClient.Yaml

open EventReader

-----------------------------------------------------------------------------------------
-- Events
-----------------------------------------------------------------------------------------

def textEvent (text : List Char) (style : Style) : Event := .scalar ⟨none, none⟩ text style

def entryEvents (entry : String × String) : List Event :=
  [textEvent entry.1.toList .plain, textEvent entry.2.toList (Written.style entry.2.toList)]

def groupEvents (group : String × List (String × String)) : List Event :=
  [textEvent group.1.toList .plain, .mappingStart ⟨none, none⟩]
    ++ group.2.flatMap entryEvents ++ [.mappingEnd]

def nodeEvents (groups : Groups) : List Event :=
  .mappingStart ⟨none, none⟩ :: groups.flatMap groupEvents ++ [.mappingEnd]

section Takes

/-- The entries of a group, and its end. -/
theorem takes_entries {pairs : List (String × String)} {fuel : Nat}
    (enough : pairs.length + 4 ≤ fuel) (opened : Mark)
    : Takes (blockMapping fuel opened) (pairs.flatMap entryTokens ++ [.blockEnd])
        (pairs.flatMap entryEvents ++ [.mappingEnd]) := by
  induction pairs generalizing fuel with
  | nil =>
      obtain ⟨fuel, rfl⟩ : ∃ less, fuel = less + 1 := ⟨fuel - 1, by omega⟩
      exact takes_mappingEnd fuel opened
  | cons pair pairs ih =>
      rw [List.length_cons] at enough
      obtain ⟨fuel, rfl⟩ : ∃ less, fuel = less + 4 := ⟨fuel - 4, by omega⟩
      have value :=
        takes_scalar fuel .blockOrList pair.2.toList (Written.style pair.2.toList)
      have others : Takes (blockMapping (fuel + 3) opened) _ _ := ih (by omega)
      have entry := takes_entry pair.1.toList .plain rfl value others
      simpa [entryTokens, entryEvents, textEvent] using entry

theorem length_groupTokens (group : String × List (String × String))
    : (groupTokens group).length = 4 * group.2.length + 5 := by
  have pairs : (group.2.flatMap entryTokens).length = 4 * group.2.length := by
    simp [List.length_flatMap, entryTokens, Nat.mul_comm, List.map_const']
  rw [groupTokens, List.length_append, List.length_append, pairs]
  simp only [List.length_cons, List.length_nil]
  omega

/-- The groups, and the end of the text. -/
theorem takes_groups {groups : Groups} {fuel : Nat}
    (enough : (groups.flatMap groupTokens).length + 5 ≤ fuel) (opened : Mark)
    : Takes (blockMapping fuel opened) (groups.flatMap groupTokens ++ [.blockEnd])
        (groups.flatMap groupEvents ++ [.mappingEnd]) := by
  induction groups generalizing fuel with
  | nil =>
      obtain ⟨fuel, rfl⟩ : ∃ less, fuel = less + 1 := ⟨fuel - 1, by omega⟩
      exact takes_mappingEnd fuel opened
  | cons group groups ih =>
      rw [List.flatMap_cons, List.length_append, length_groupTokens] at enough
      obtain ⟨fuel, rfl⟩ : ∃ less, fuel = less + 4 := ⟨fuel - 4, by omega⟩
      have pairs (opened : Mark)
          : Takes (blockMapping fuel opened) (group.2.flatMap entryTokens ++ [.blockEnd]) _ :=
        takes_entries (by omega) opened
      have value : Takes (node (fuel + 2) .blockOrList) _ _ := takes_mapping rfl pairs
      have others : Takes (blockMapping (fuel + 3) opened) _ _ := ih (by omega)
      have entry := takes_entry group.1.toList .plain rfl value others
      simpa [groupTokens, groupEvents, textEvent] using entry

/-- The node of a document of groups. -/
theorem takes_node (groups : Groups) {fuel : Nat}
    (enough : (groups.flatMap groupTokens).length + 7 ≤ fuel)
    : Takes (node fuel .block)
        (.blockMappingStart :: groups.flatMap groupTokens ++ [.blockEnd]) (nodeEvents groups) := by
  obtain ⟨fuel, rfl⟩ : ∃ less, fuel = less + 2 := ⟨fuel - 2, by omega⟩
  exact takes_mapping rfl fun opened => takes_groups (by omega) opened

end Takes

/-- A text that starts with a mapping starts its first document with it. -/
theorem run_documentStart (start stop : Mark) (rest : List PlacedToken)
    : (document true).run ⟨⟨.blockMappingStart, start, stop⟩ :: rest, none, [], []⟩
      = (anyNode >>= fun _ => endDocument >>= fun _ => pure true).run
          ⟨⟨.blockMappingStart, start, stop⟩ :: rest, none, [⟨.documentStart, start⟩],
            defaultHandles⟩ :=
  rfl

theorem run_anyNode (state : EventState)
    : anyNode.run state = (node (3 * state.tokens.length + 3) .block).run state := by
  have found : (get : EventReader EventState).run state = (.ok state, state) := rfl
  exact run_bind found

/-- The only document of groups is read to its end. -/
theorem run_document {groups : Groups} {tokens : List PlacedToken}
    (words : tokens.map (·.token) = documentTokens groups)
    : ∃ start stop events handles,
        (document true).run ⟨tokens, none, [], []⟩
        = (.ok true, ⟨[⟨.streamEnd, start, stop⟩], none, events, handles⟩)
        ∧ events.reverse.map (·.event) = .documentStart :: nodeEvents groups ++ [.documentEnd] := by
  have words : tokens.map (·.token)
      = (.blockMappingStart :: groups.flatMap groupTokens ++ [.blockEnd]) ++ [.streamEnd] := by
    rw [words, documentTokens]
    simp
  obtain ⟨front, back, rfl, isFront, isBack⟩ := List.map_eq_append_iff.mp words
  obtain ⟨endStart, endStop, nothing, rfl, isNothing⟩ := exists_firstToken isBack
  obtain rfl := List.map_eq_nil_iff.mp isNothing
  obtain ⟨start, stop, others, rfl, isOthers⟩ := exists_firstToken isFront
  generalize isRest : [PlacedToken.mk .streamEnd endStart endStop] = rest
  generalize isFuel
    : 3 * (⟨.blockMappingStart, start, stop⟩ :: (others ++ rest) : List PlacedToken).length + 3
      = fuel
  have enough : (groups.flatMap groupTokens).length + 7 ≤ fuel := by
    have length := congrArg List.length isFront
    simp only [List.length_map, List.length_cons, List.length_append, List.length_nil] at length
    rw [← isFuel, List.length_cons, List.length_append]
    omega
  obtain ⟨added, isAdded, runs⟩ :=
    takes_node groups enough _ rest none [⟨.documentStart, start⟩] defaultHandles isFront
  have any
      : anyNode.run
          ⟨⟨.blockMappingStart, start, stop⟩ :: (others ++ rest), none, [⟨.documentStart, start⟩],
            defaultHandles⟩
        = (.ok (), ⟨rest, none, added.reverse ++ [⟨.documentStart, start⟩], defaultHandles⟩) := by
    rw [run_anyNode, isFuel]
    exact runs
  refine
    ⟨endStart, endStop,
      ⟨.documentEnd, endStart⟩ :: (added.reverse ++ [⟨.documentStart, start⟩]),
      defaultHandles, ?_, by simp [isAdded]⟩
  rw [List.cons_append, run_documentStart, run_bind any, ← isRest]
  rfl

-----------------------------------------------------------------------------------------
-- Items
-----------------------------------------------------------------------------------------

def eventItem? : Event → Option Item
  | .documentStart | .documentEnd | .reference _ => none
  | .scalar properties text style => some (.scalar text properties.tag style)
  | .sequenceStart properties => some (.sequenceStart properties.tag)
  | .sequenceEnd => some .sequenceEnd
  | .mappingStart properties => some (.mappingStart properties.tag)
  | .mappingEnd => some .mappingEnd

/-- Whether an event neither has a name nor refers to one. -/
def isNameless : Event → Bool
  | .reference _ => false
  | .scalar properties _ _ | .sequenceStart properties | .mappingStart properties =>
      properties.name.isNone
  | .documentStart | .documentEnd | .sequenceEnd | .mappingEnd => true

theorem build_cons {event : Event} (nameless : isNameless event = true) (fault : Option Fault)
    (building : Document.Building) (mark : Mark) (events : List PlacedEvent)
    : Document.build fault building (⟨event, mark⟩ :: events)
      = Document.build fault ((eventItem? event).elim building (building.add · mark)) events := by
  cases event with
  | reference name => cases nameless
  | documentStart => rfl
  | documentEnd => rfl
  | sequenceEnd => rfl
  | mappingEnd => rfl
  | scalar properties text style =>
      obtain ⟨_ | name, tag⟩ := properties
      · rfl
      · cases nameless
  | sequenceStart properties =>
      obtain ⟨_ | name, tag⟩ := properties
      · rfl
      · cases nameless
  | mappingStart properties =>
      obtain ⟨_ | name, tag⟩ := properties
      · rfl
      · cases nameless

/-- Without names, a document holds the items of its events. -/
theorem build_of_nameless (fault : Option Fault) (building : Document.Building)
    {events : List PlacedEvent} (nameless : (events.map (·.event)).all isNameless = true)
    : (Document.build fault building events).fault = fault.map .malformed
      ∧ (Document.build fault building events).items.map (·.1)
        = building.items.reverse.map (·.1) ++ (events.map (·.event)).filterMap eventItem? := by
  induction events generalizing building with
  | nil => simp [Document.build, Document.Building.finish]
  | cons event events ih =>
      obtain ⟨event, mark⟩ := event
      rw [List.map_cons, List.all_cons, Bool.and_eq_true] at nameless
      obtain ⟨first, others⟩ := nameless
      rw [build_cons first]
      obtain ⟨isFault, isItems⟩ :=
        ih ((eventItem? event).elim building (building.add · mark)) others
      refine ⟨isFault, isItems.trans ?_⟩
      cases found : eventItem? event <;> simp [found, Document.Building.add]

def textItem (text : List Char) (style : Style) : Item := .scalar text none style

def entryItems (entry : String × String) : List Item :=
  [textItem entry.1.toList .plain, textItem entry.2.toList (Written.style entry.2.toList)]

def groupItems (group : String × List (String × String)) : List Item :=
  [textItem group.1.toList .plain, .mappingStart none]
    ++ group.2.flatMap entryItems ++ [.mappingEnd]

def documentItems (groups : Groups) : List Item :=
  .mappingStart none :: groups.flatMap groupItems ++ [.mappingEnd]

theorem all_nodeEvents (groups : Groups) : (nodeEvents groups).all isNameless = true := by
  have entry (pair : String × String) : (entryEvents pair).all isNameless = true := rfl
  have group (group : String × List (String × String))
      : (groupEvents group).all isNameless = true := by
    simp [groupEvents, entry, textEvent, isNameless]
  simp [nodeEvents, group, isNameless]

theorem filterMap_nodeEvents (groups : Groups)
    : (nodeEvents groups).filterMap eventItem? = documentItems groups := by
  have entry (pair : String × String)
      : (entryEvents pair).filterMap eventItem? = entryItems pair := rfl
  have group (group : String × List (String × String))
      : (groupEvents group).filterMap eventItem? = groupItems group := by
    simp [groupEvents, groupItems, List.filterMap_append, List.filterMap_flatMap, entry, textEvent,
      textItem, eventItem?]
  simp [nodeEvents, documentItems, List.filterMap_append, List.filterMap_flatMap, group, eventItem?]

/-- Groups are read as one document, which holds their items. -/
theorem Document.ofText_groups {groups : Groups} (some : groups ≠ []) (keyed : groups.AreKeyed)
    : ∃ document,
        Document.ofText groups.text = (document, false)
        ∧ document.fault = none
        ∧ document.items.map (·.1) = documentItems groups := by
  obtain ⟨tokens, stream, words⟩ := TokenStream.ofText_groups some keyed
  obtain ⟨start, stop, events, handles, runs, isEvents⟩ := run_document words
  have nameless : (events.reverse.map (·.event)).all isNameless = true := by
    rw [isEvents]
    simp [all_nodeEvents, isNameless]
  obtain ⟨isFault, isItems⟩ := build_of_nameless none .empty nameless
  refine ⟨Document.build none .empty events.reverse, ?_, isFault, ?_⟩
  · have runs
        : (EventReader.document true).run ⟨tokens, none, [], []⟩
          = (.ok true, ⟨[⟨.streamEnd, start, stop⟩], none, events, handles⟩) :=
      runs
    have ends
        : (EventReader.document false).run ⟨[⟨.streamEnd, start, stop⟩], none, events, handles⟩
          = (.ok false, ⟨[⟨.streamEnd, start, stop⟩], none, events, handles⟩) :=
      rfl
    rw [Document.ofText, stream]
    dsimp only
    rw [runs]
    dsimp only
    rw [ends]
  · rw [isItems, isEvents, ← filterMap_nodeEvents]
    rw [List.cons_append, List.filterMap_cons_none rfl, List.filterMap_append]
    simp [Building.empty, eventItem?]

end SatClient.Yaml
