import SatClient.Yaml.Event.Stream

/-! Documents. Aliases point to the nodes that they stand for, and an event of its own stands
for a text without any document.

An anchor gets as its number the count of different names known before it; an alias points to
the latest node with the number of its name.
-/

namespace SatClient.Yaml

/-- A part of a node, in the order of the text. -/
inductive Item where
  | reference (number : Nat)
  | scalar (text : List Char) (tag : Option (List Char)) (style : Style)
  | sequenceStart (tag : Option (List Char))
  | sequenceEnd
  | mappingStart (tag : Option (List Char))
  | mappingEnd
  /-- There is no document at all. -/
  | void
  deriving DecidableEq, Repr

inductive DocumentFault where
  | malformed (fault : Fault)
  | unknownAnchor (mark : Mark)
  deriving DecidableEq, Repr

def DocumentFault.message : DocumentFault → String
  | malformed fault => fault.message
  | unknownAnchor mark => "unknown anchor" ++ mark.suffix

structure Document where
  items : List (Item × Mark)
  /-- For the number of each anchor the number of items before its node, latest first. -/
  targets : List (Nat × Nat)
  fault : Option DocumentFault
  deriving Repr

namespace Document

/-- The anchors met so far, and the items, latest first. -/
structure Building where
  items : List (Item × Mark)
  names : List (List Char × Nat)
  targets : List (Nat × Nat)

namespace Building

def empty : Building := ⟨[], [], []⟩

def add (building : Building) (item : Item) (mark : Mark) : Building :=
  { building with items := (item, mark) :: building.items }

def name (building : Building) : Option (List Char) → Building
  | none => building
  | some name =>
      let number := building.names.length
      { building with
        names := (name, number) :: building.names.filter (·.1 != name)
        targets := (number, building.items.length) :: building.targets }

def finish (building : Building) (fault : Option DocumentFault) : Document :=
  ⟨building.items.reverse, building.targets, fault⟩

end Building

/-- Add events, given why they end. -/
def build (fault : Option Fault) : Building → List PlacedEvent → Document
  | building, [] => building.finish (fault.map .malformed)
  | building, ⟨event, mark⟩ :: rest =>
      match event with
      | .documentStart | .documentEnd => build fault building rest
      | .reference name =>
          match building.names.find? (·.1 == name) with
          | some (_, number) => build fault (building.add (.reference number) mark) rest
          | none => building.finish (some (.unknownAnchor mark))
      | .scalar properties text style =>
          build fault ((building.name properties.name).add (.scalar text properties.tag style) mark)
            rest
      | .sequenceStart properties =>
          build fault
            ((building.name properties.name).add (.sequenceStart properties.tag) mark) rest
      | .sequenceEnd => build fault (building.add .sequenceEnd mark) rest
      | .mappingStart properties =>
          build fault ((building.name properties.name).add (.mappingStart properties.tag) mark) rest
      | .mappingEnd => build fault (building.add .mappingEnd mark) rest

def endMark (stream : TokenStream) : Mark :=
  (stream.tokens.getLast?.map (·.start)).getD .start

/-- The first document of a text, and whether anything follows it: another document, or a
place where reading one fails.
-/
def ofText (text : List Char) : Document × Bool :=
  let stream := TokenStream.ofText text
  let state : EventState := ⟨stream.tokens, stream.fault, [], []⟩
  match (EventReader.document true).run state with
  | (.error fault, state) => (build (some fault) .empty state.events.reverse, true)
  | (.ok false, _) => (⟨[(.void, endMark stream)], [], none⟩, false)
  | (.ok true, state) =>
      let more := match (EventReader.document false).run state with
        | (.ok more, _) => more
        | (.error _, _) => true
      (build none .empty state.events.reverse, more)

end Document

end SatClient.Yaml
