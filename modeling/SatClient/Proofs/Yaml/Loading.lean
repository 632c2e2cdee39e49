import SatClient.Proofs.Bind
import SatClient.Yaml.Load

/-! Loading the items of a document. A loader that reads some items as a value does so wherever they
stand, and a record is read where its entries fill the fields one by one.
-/

namespace SatClient.Yaml

variable {α β σ : Type} {document : Document} {position : Nat}

-----------------------------------------------------------------------------------------
-- Positions
-----------------------------------------------------------------------------------------

/-- Some items stand at a position of a document. -/
def Document.HasAt (document : Document) (position : Nat) (items : List Item) : Prop :=
  items <+: (document.items.map (·.1)).drop position

theorem Document.HasAt.append {items others : List Item}
    (hasAt : document.HasAt position (items ++ others))
    : document.HasAt position items ∧ document.HasAt (position + items.length) others := by
  refine ⟨(List.prefix_append items others).trans hasAt, ?_⟩
  obtain ⟨rest, isRest⟩ := hasAt
  refine ⟨rest, ?_⟩
  rw [← List.drop_drop, ← isRest, List.append_assoc, List.drop_left]

theorem Document.HasAt.item_eq {item : Item} {others : List Item}
    (hasAt : document.HasAt position (item :: others))
    : ∃ mark, document.item position = .ok (item, mark) := by
  obtain ⟨rest, isRest⟩ := hasAt
  have first : (document.items.map (·.1))[position]? = some item := by
    rw [← Nat.add_zero position, ← List.getElem?_drop, ← isRest]
    rfl
  rw [List.getElem?_map, Option.map_eq_some_iff] at first
  obtain ⟨⟨_, mark⟩, found, rfl⟩ := first
  exact ⟨mark, by simp [Document.item, found]⟩

theorem Document.HasAt.length_le {items : List Item} (hasAt : document.HasAt position items)
    : items.length ≤ document.items.length := by
  have length := List.IsPrefix.length_le hasAt
  rw [List.length_drop, List.length_map] at length
  omega

/-- A loader reads some items as a value, wherever they stand. -/
def Loader.Reads (loader : Loader α) (items : List Item) (value : α) : Prop :=
  ∀ document path position, Document.HasAt document position items →
    loader document path position = .ok (value, position + items.length)

theorem Loader.Reads.map {loader : Loader α} {items : List Item} {value : α}
    (reads : loader.Reads items value) (f : α → β)
    : (loader.map f).Reads items (f value) := by
  intro document path position hasAt
  simp [Loader.map, reads document path position hasAt, bind, Except.bind, pure, Except.pure]

/-- Any scalar is read as its text. -/
theorem reads_loadText (expected : String) (text : List Char) (tag : Option (List Char))
    (style : Style)
    : (loadText expected).Reads [.scalar text tag style] (String.ofList text) := by
  intro document path position hasAt
  obtain ⟨mark, found⟩ := hasAt.item_eq
  simp [loadText, Document.follow, found, bind, Except.bind, pure, Except.pure]

/-- A word is read as what it stands for. -/
theorem reads_loadVariant {variants : List (String × α)} {word : List Char} {name : String}
    {value : α} (isWord : variants.find? (·.1.toList == word) = some (name, value)) (style : Style)
    : (loadVariant variants).Reads [.scalar word none style] value := by
  intro document path position hasAt
  obtain ⟨mark, found⟩ := hasAt.item_eq
  simp [loadVariant, Document.follow, found, ownTag?, isWord, bind, Except.bind, pure, Except.pure]

-----------------------------------------------------------------------------------------
-- Records
-----------------------------------------------------------------------------------------

/-- The entries of a mapping fill fields one by one, up to its end. -/
inductive Fills (fields : List (RecordField σ)) : σ → List Item → σ → Prop where
  | done (found : σ) : Fills fields found [.mappingEnd] found
  | entry {found next last : σ} {name : String} {tag : Option (List Char)} {style : Style}
      {field : RecordField σ} {others : List Item} (items : List Item)
      (isField : fields.find? (·.name == name) = some field) (unset : field.isSet found = false)
      (reads : (field.load found).Reads items next) (fills : Fills fields next others last)
      : Fills fields found (.scalar name.toList tag style :: items ++ others) last

/-- An entry whose value is a scalar. -/
theorem Fills.cons {fields : List (RecordField σ)} {found next last : σ} {name : String}
    {tag : Option (List Char)} {style : Style} {field : RecordField σ} {item : Item}
    {others : List Item} (isField : fields.find? (·.name == name) = some field)
    (unset : field.isSet found = false) (reads : (field.load found).Reads [item] next)
    (fills : Fills fields next others last)
    : Fills fields found (.scalar name.toList tag style :: item :: others) last :=
  .entry [item] isField unset reads fills

/-- Entries are read as they fill the fields. The induction is on the entries. -/
theorem Fills.loadEntries_eq {fields : List (RecordField σ)} {found last : σ} {items : List Item}
    (fills : Fills fields found items last) {fuel : Nat} (enough : items.length ≤ fuel)
    (path : String) (hasAt : document.HasAt position items)
    : loadEntries fields document path fuel found position
      = .ok (last, position + items.length) := by
  induction fills generalizing fuel position with
  | done found =>
      obtain ⟨fuel, rfl⟩ : ∃ less, fuel = less + 1 := ⟨fuel - 1, by simp at enough; omega⟩
      obtain ⟨mark, isEnd⟩ := hasAt.item_eq
      simp [loadEntries, isEnd, bind, Except.bind, pure, Except.pure]
  | @entry found next last name tag style field others items isField unset reads fills ih =>
      rw [List.cons_append, List.length_cons, List.length_append] at enough
      obtain ⟨fuel, rfl⟩ : ∃ less, fuel = less + 1 := ⟨fuel - 1, by omega⟩
      rw [← List.singleton_append, List.append_assoc] at hasAt
      obtain ⟨atKey, hasRest⟩ := hasAt.append
      obtain ⟨atValue, atOthers⟩ := hasRest.append
      obtain ⟨mark, isKey⟩ := atKey.item_eq
      have key :=
        reads_loadText "field identifier" name.toList tag style document path position atKey
      have value := reads document (childPath path (some name)) _ atValue
      have shorter : others.length ≤ fuel := by omega
      have rest := ih shorter atOthers
      simp only [String.ofList_toList, List.length_singleton] at key value rest
      simp [loadEntries, isKey, key, isField, unset, value, rest, bind, Except.bind]
      omega

/-- A record is read from entries that fill its fields. -/
theorem reads_loadRecord {fields : List (RecordField σ)} {start : σ} {items : List Item}
    {finish : σ → Except Mismatch α} {value : α} (name : String) (last : σ)
    (fills : Fills fields start items last) (finishes : finish last = .ok value)
    : (loadRecord name fields start finish).Reads (.mappingStart none :: items) value := by
  intro document path position hasAt
  obtain ⟨mark, isStart⟩ := hasAt.item_eq
  have enough : items.length ≤ document.items.length + 1 := by
    have length := hasAt.length_le
    rw [List.length_cons] at length
    omega
  rw [← List.singleton_append] at hasAt
  have entries := fills.loadEntries_eq enough path hasAt.append.2
  simp only [List.length_singleton] at entries
  simp [loadRecord, Document.follow, isStart, entries, finishes, bind, Except.bind, pure,
    Except.pure]
  omega

/-- The only document of a text is loaded. -/
theorem load_eq {loader : Loader α} {text : List Char} {value : α} {items : List Item}
    (reads : loader.Reads items value) (isText : Document.ofText text = (document, false))
    (isWhole : document.fault = none) (isItems : document.items.map (·.1) = items)
    : load loader text = .ok value := by
  have hasAt : document.HasAt 0 items := by
    rw [Document.HasAt, isItems]
    exact List.prefix_refl items
  simp [load, isText, reads document "" 0 hasAt, isWhole, bind, Except.bind, pure, Except.pure]

end SatClient.Yaml
