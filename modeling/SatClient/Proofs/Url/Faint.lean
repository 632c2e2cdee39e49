import SatClient.Proofs.Text.Utf8
import SatClient.Proofs.Url.Path
import SatClient.Url.Host

/-! Characters that are no visible ones of ASCII. No host ends with a control character or a blank
of ASCII, and a path writes a text that ends with a faint character so that it is no dot segment
and has no slash at its end.
-/

namespace SatClient.Url

/-- A character that is no visible one of ASCII. -/
def IsFaint (c : Char) : Prop := c.toNat ≤ 0x20 ∨ 0x80 ≤ c.toNat

/-- A text of faint characters, the last of which is no blank of ASCII. -/
structure FaintTail (tail : List Char) : Prop where
  faint : ∀ c ∈ tail, IsFaint c
  last : ∃ front c, tail = front ++ [c] ∧ c ≠ ' '

theorem IsFaint.ne {c d : Char} (faint : IsFaint c) (visible : 0x20 < d.toNat ∧ d.toNat < 0x80)
    : c ≠ d := by
  rintro rfl
  rcases faint with small | great <;> omega

theorem FaintTail.ne_nil {tail : List Char} (tailed : FaintTail tail) : tail ≠ [] := by
  obtain ⟨front, c, rfl, -⟩ := tailed.last
  simp

theorem FaintTail.not_mem {tail : List Char} (tailed : FaintTail tail) {c : Char}
    (visible : 0x20 < c.toNat ∧ c.toNat < 0x80)
    : c ∉ tail :=
  fun member => (tailed.faint c member).ne visible rfl

-----------------------------------------------------------------------------------------
-- Written as bytes
-----------------------------------------------------------------------------------------

/-- What a path writes for a faint text ends with a byte, and not with that of a dot. -/
def EndsInByte (text : List Char) : Prop :=
  ∃ front high low,
    text = front ++ ['%', high, low]
      ∧ Char.toLower high ≠ '2'
      ∧ Char.toLower low ≠ '.'
      ∧ low ≠ '/'

theorem hexDigitUpper_ne : ∀ n < 16,
    (n ≠ 2 → (Text.hexDigitUpper n).toLower ≠ '2')
      ∧ (Text.hexDigitUpper n).toLower ≠ '.'
      ∧ Text.hexDigitUpper n ≠ '/' := by
  decide

theorem endsInByte_escapedByte {b : UInt8} (other : b.toNat / 16 ≠ 2)
    : EndsInByte (Part.escapedByte b) := by
  have high : b.toNat / 16 < 16 := by
    have := b.toNat_lt
    omega
  have low : b.toNat % 16 < 16 := Nat.mod_lt _ (by decide)
  exact ⟨[], _, _, rfl, (hexDigitUpper_ne _ high).1 other, (hexDigitUpper_ne _ low).2⟩

/-- A path's segments of dots end with a dot or with the byte of one. -/
theorem EndsInByte.stays {segment : List Char} (ends : EndsInByte segment)
    : Path.Stays segment := by
  obtain ⟨front, high, low, rfl, notTwo, notDot, -⟩ := ends
  have reversed (other : List Char)
      : front.map Char.toLower ++ ['%', high.toLower, low.toLower] = other
        ↔ low.toLower :: high.toLower :: '%' :: (front.map Char.toLower).reverse
          = other.reverse := by
    rw [← List.reverse_inj]
    simp
  constructor
  · simp [Path.isDoubleDot, reversed, notTwo, notDot]
  · simp [Path.isDot, reversed, notTwo, notDot]

theorem EndsInByte.append {text : List Char} (ends : EndsInByte text) (front : List Char)
    : EndsInByte (front ++ text) := by
  obtain ⟨others, high, low, rfl, rest⟩ := ends
  exact ⟨front ++ others, high, low, by simp, rest⟩

theorem exists_encodeChar_last {c : Char} (faint : IsFaint c) (noSpace : c ≠ ' ')
    : ∃ front b, Utf8.encodeChar c = front ++ [b] ∧ b.toNat / 16 ≠ 2 := by
  have byte (n : Nat) : (Utf8.continuation n).toNat / 16 ≠ 2 := by
    rw [Utf8.continuation, Utf8.toNat_ofNat_of_lt (by omega)]
    omega
  have notSpace : c.toNat ≠ 0x20 := fun same => noSpace (Char.toNat_inj.mp same)
  rw [Utf8.encodeChar]
  split
  · refine ⟨[], _, rfl, ?_⟩
    rw [Utf8.toNat_ofNat_of_lt (by omega)]
    rcases faint with small | great <;> omega
  · split
    · exact ⟨[_], _, rfl, byte _⟩
    · split
      · exact ⟨[_, _], _, rfl, byte _⟩
      · exact ⟨[_, _, _], _, rfl, byte _⟩

theorem FaintTail.endsInByte {tail : List Char} (tailed : FaintTail tail)
    : EndsInByte (Part.path.escaped tail) := by
  obtain ⟨front, c, rfl, noSpace⟩ := tailed.last
  have faint := tailed.faint c (by simp)
  have escapes : Part.path.escapes c = true := by
    have notSpace : c.toNat ≠ 0x20 := fun same => noSpace (Char.toNat_inj.mp same)
    have always : Part.isAlwaysEscaped c = true := by
      rcases faint with small | great <;> simp [Part.isAlwaysEscaped] <;> omega
    simp [Part.escapes, always]
  obtain ⟨bytes, b, encoded, other⟩ := exists_encodeChar_last faint noSpace
  rw [Part.escaped, List.flatMap_append, List.flatMap_singleton, Part.escapedChar, if_pos escapes,
    encoded, List.flatMap_append, List.flatMap_singleton]
  exact ((endsInByte_escapedByte other).append _).append _

-----------------------------------------------------------------------------------------
-- Paths
-----------------------------------------------------------------------------------------

namespace Path

theorem length_text_up_le (stay : List (List Char))
    : (text (up stay).reverse).length ≤ (text stay.reverse).length := by
  cases stay with
  | nil => exact Nat.le_refl 0
  | cons last rest =>
      rw [up]
      split
      · exact Nat.le_refl _
      · rw [List.reverse_cons, text_append, List.length_append]
        exact Nat.le_add_right _ _

theorem text_singleton (segment : List Char) : text [segment] = '/' :: segment := by
  simp [text]

/-- Dots at the end of a path make it no longer than a name of their length would. -/
theorem length_text_follow_le (stay : List (List Char)) (last : List Char)
    : (text (follow stay [last])).length ≤ (text (stay.reverse ++ [last])).length := by
  have upper := length_text_up_le stay
  rw [follow]
  split
  · simp only [List.reverse_cons, text_append, text_singleton, List.length_append,
      List.length_cons, List.length_nil]
    omega
  · split
    · simp only [List.reverse_cons, text_append, text_singleton, List.length_append,
        List.length_cons, List.length_nil]
      omega
    · rw [List.reverse_cons]

/-- The end of a path with a text of faint characters behind it: where the path ends with the
segment `last` behind those that `stay`, the bytes of the text go on with this segment.
-/
theorem exists_parse_append_faint {front tail : List Char} (starts : Starts front)
    (some : front ≠ []) (tailed : FaintTail tail)
    : ∃ stay last,
        parse front = follow stay [last]
          ∧ parse (front ++ tail) = stay.reverse ++ [last ++ Part.path.escaped tail]
          ∧ stem (front ++ tail) = parse (front ++ tail) := by
  obtain ⟨c, rest, rfl⟩ := List.exists_cons_of_ne_nil some
  have isSlash : slash c = '/' := starts c rfl
  obtain ⟨pieces, last, cut⟩ := Text.exists_splitOn_append '/' (rest.map slash)
  have noSlash : '/' ∉ tail := tailed.not_mem (by decide)
  have unchanged : tail.map slash = tail := by
    refine (List.map_congr_left fun d member => ?_).trans (List.map_id tail)
    have noBackslash : d ≠ '\\' := (tailed.faint d member).ne (by decide)
    simp [slash, noBackslash]
  have before : segments rest = pieces.map Part.path.escaped ++ [Part.path.escaped last] := by
    rw [segments, ← List.append_nil (rest.map slash), cut [] List.not_mem_nil, List.append_nil,
      List.map_append]
    rfl
  have behind : segments (rest ++ tail)
      = pieces.map Part.path.escaped ++ [Part.path.escaped last ++ Part.path.escaped tail] := by
    rw [segments, List.map_append, unchanged, cut tail noSlash, List.map_append,
      List.map_singleton, Part.escaped, List.flatMap_append]
    rfl
  have stays : Stays (Part.path.escaped last ++ Part.path.escaped tail) :=
    (tailed.endsInByte.append _).stays
  refine ⟨(pieces.map Part.path.escaped).foldl step [], Part.path.escaped last, ?_, ?_, ?_⟩
  · rw [parse_cons isSlash, before, follow_append (by simp)]
  · rw [List.cons_append, parse_cons isSlash, behind, follow_append (by simp), stays.follow]
  · rw [List.cons_append, parse_cons isSlash, stem, leading, behind, follow_append (by simp),
      stays.follow, List.foldl_append, List.foldl_cons, List.foldl_nil, stays.step,
      List.reverse_cons]

/-- A text of faint characters makes a path longer, even without what a name behind it would take
away, and leaves no slash at its end.
-/
theorem text_parse_append_faint {front tail : List Char} (starts : Starts front)
    (some : front ≠ []) (tailed : FaintTail tail)
    : (text (parse front)).length < (text (stem (front ++ tail))).length
      ∧ stem (front ++ tail) = parse (front ++ tail)
      ∧ (text (parse (front ++ tail))).getLast? ≠ .some '/' := by
  obtain ⟨stay, last, before, behind, same⟩ := exists_parse_append_faint starts some tailed
  obtain ⟨bytes, high, low, escaped, -, -, noSlash⟩ := tailed.endsInByte
  refine ⟨?_, same, ?_⟩
  · have short := length_text_follow_le stay last
    rw [same, before, behind]
    simp only [text_append, text_singleton, List.length_append, List.length_cons, escaped]
      at short ⊢
    omega
  · have split : text (parse (front ++ tail))
        = (text stay.reverse ++ '/' :: last ++ bytes ++ ['%', high]) ++ [low] := by
      simp [behind, text_append, text_singleton, escaped]
    rw [split, List.getLast?_concat]
    simpa using noSlash

end Path

-----------------------------------------------------------------------------------------
-- Hosts
-----------------------------------------------------------------------------------------

theorem hexValue?_of_small {c : Char} (small : c.toNat ≤ 0x20) : Text.hexValue? c = none := by
  have below (d : Char) (visible : 0x20 < d.toNat) : ¬ d ≤ c := by
    rw [Char.le_def, UInt32.le_iff_toNat_le]
    simp only [Char.toNat] at small visible
    omega
  have noDigit : c.isDigit = false := by
    cases digit : c.isDigit with
    | false => rfl
    | true =>
        rw [Char.isDigit, Bool.and_eq_true, decide_eq_true_eq] at digit
        exact absurd digit.1 (below '0' (by decide))
  simp [Text.hexValue?, noDigit, below 'a' (by decide), below 'A' (by decide)]

/-- A small character at the end of a text is no part of an escaped byte. -/
theorem mem_unescaped {text : List Char} {c : Char} (last : text.getLast? = some c)
    (small : c.toNat ≤ 0x20)
    : UInt8.ofNat c.toNat ∈ unescaped text := by
  fun_induction unescaped text with
  | case1 => cases last
  | case2 a b rest high low isHigh isLow ih =>
      cases rest with
      | nil =>
          obtain rfl : b = c := by simpa using last
          simp [hexValue?_of_small small] at isHigh
      | cons d rest => exact List.mem_cons_of_mem _ (ih (by simpa using last))
  | case3 a b rest other ih => exact List.mem_cons_of_mem _ (ih (by simpa using last))
  | case4 d rest other ih =>
      rw [List.mem_append]
      cases rest with
      | nil =>
          obtain rfl : d = c := by simpa using last
          left
          rw [Utf8.encodeChar, if_pos (by omega)]
          exact List.mem_singleton_self _
      | cons e rest => exact Or.inr (ih (by simpa using last))

theorem mem_of_mem_encode {text : List Char} {c : Char} (small : c.toNat ≤ 0x20)
    (member : UInt8.ofNat c.toNat ∈ Utf8.encode text)
    : c ∈ text := by
  obtain ⟨d, isMember, inside⟩ := List.mem_flatMap.mp member
  have byte : (UInt8.ofNat c.toNat).toNat = c.toNat := Utf8.toNat_ofNat_of_lt (by omega)
  have ascii : d.toNat < 0x80 := Nat.lt_of_not_le fun beyond => by
    have := Utf8.le_toNat_of_mem_encodeChar (Nat.not_lt.mpr beyond) inside
    omega
  rw [Utf8.encodeChar, if_pos ascii, List.mem_singleton] at inside
  have same : c.toNat = d.toNat := by
    rw [← byte, inside, Utf8.toNat_ofNat_of_lt (by omega)]
  rwa [Char.toNat_inj.mp same]

theorem replaceAll?_of_reserved {text : List Char} {c : Char} (member : c ∈ text)
    (ascii : c.toNat < 0x80) (reserved : Idna.isReserved c = true)
    : Idna.replaceAll? text = none := by
  have refused : Idna.Replacement.ofChar c = .refuse := by
    rw [Idna.Replacement.ofChar, if_pos ascii, if_pos reserved]
  induction text with
  | nil => cases member
  | cons d rest ih =>
      rcases List.mem_cons.mp member with rfl | later
      · rw [Idna.replaceAll?, refused]
      · rw [Idna.replaceAll?, ih later]
        split <;> simp

/-- No host ends with a control character or a blank of ASCII. -/
theorem Host.last_of_parse {text : List Char} {host : Host} {c : Char}
    (found : Host.parse text = .ok host) (last : text.getLast? = some c)
    : 0x20 < c.toNat := by
  refine Nat.lt_of_not_le fun small => ?_
  rw [Host.parse.eq_def] at found
  split at found
  · rename_i rest
    rw [Host.bracketed] at found
    split at found
    · rename_i inner closed
      obtain rfl : ']' = c := by
        rw [List.reverse_eq_cons_iff] at closed
        rw [closed, ← List.cons_append, List.getLast?_concat] at last
        exact Option.some.inj last
      simp at small
    · cases found
  · rename_i unbracketed
    have absent : (Utf8.decode? (unescaped text)).bind Idna.toAscii? = none := by
      cases decoded : Utf8.decode? (unescaped text) with
      | none => rfl
      | some name =>
          have member : c ∈ name := by
            refine mem_of_mem_encode small ?_
            rw [Utf8.encode_of_decodeLoop? decoded]
            exact mem_unescaped last small
          have reserved : Idna.isReserved c = true := by simp [Idna.isReserved, small]
          simp [Idna.toAscii?, replaceAll?_of_reserved member (by omega) reserved]
    simp [absent] at found

end SatClient.Url
