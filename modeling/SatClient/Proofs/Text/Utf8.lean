import SatClient.Text.Utf8

/-! Reading UTF-8 undoes writing it, and only what was written can be read: bytes are the form of
at most one text, and every text has exactly one form.
-/

namespace SatClient.Utf8

theorem toNat_ofNat_of_lt {n : Nat} (small : n < 256) : (UInt8.ofNat n).toNat = n := by
  rw [UInt8.toNat_ofNat']
  exact Nat.mod_eq_of_lt small

-----------------------------------------------------------------------------------------
-- Continuation bytes and code points
-----------------------------------------------------------------------------------------

theorem continuationBits?_continuation (n : Nat)
    : continuationBits? (continuation n) = some (n % 64) := by
  have bits : (continuation n).toNat = 0x80 + n % 64 := toNat_ofNat_of_lt (by omega)
  have below : 0x80 + n % 64 < 0xC0 := by omega
  rw [continuationBits?, bits]
  simp [below]

theorem continuation_of_continuationBits? {b : UInt8} {x : Nat}
    (found : continuationBits? b = some x)
    : x < 64 ∧ ∀ n, n % 64 = x → continuation n = b := by
  simp only [continuationBits?, Bool.and_eq_true, decide_eq_true_eq] at found
  split at found
  next range =>
    obtain rfl := Option.some.inj found
    refine ⟨by omega, fun n same => ?_⟩
    have whole : b.toNat = 0x80 + (b.toNat - 0x80) := by omega
    rw [continuation, same, ← whole, UInt8.ofNat_toNat]
  next => cases found

theorem charFrom?_toNat {least : Nat} {c : Char} (enough : least ≤ c.toNat)
    : charFrom? least c.toNat = some c := by
  have valid : c.toNat.isValidChar := c.valid
  rw [charFrom?, if_pos enough, dif_pos valid]
  rfl

theorem toNat_of_charFrom? {least n : Nat} {c : Char} (found : charFrom? least n = some c)
    : c.toNat = n ∧ least ≤ n := by
  rw [charFrom?] at found
  by_cases enough : least ≤ n
  · rw [if_pos enough] at found
    by_cases valid : n.isValidChar
    · rw [dif_pos valid] at found
      cases found
      exact ⟨rfl, enough⟩
    · rw [dif_neg valid] at found
      cases found
  · rw [if_neg enough] at found
    cases found

theorem toNat_lt (c : Char) : c.toNat < 0x110000 := by
  have valid : c.toNat.isValidChar := c.valid
  rcases valid with small | ⟨_, large⟩ <;> omega

/-- The code points of letters. -/
theorem toNat_of_isAlpha {c : Char} (letter : c.isAlpha = true)
    : 65 ≤ c.toNat ∧ c.toNat ≤ 90 ∨ 97 ≤ c.toNat ∧ c.toNat ≤ 122 := by
  have cases
      : (decide ('A'.val ≤ c.val ∧ c.val ≤ 'Z'.val)
          || decide ('a'.val ≤ c.val) && decide (c.val ≤ 'z'.val)) = true :=
    letter
  simp only [Bool.or_eq_true, Bool.and_eq_true, decide_eq_true_eq, UInt32.le_iff_toNat_le,
    Char.toNat_val] at cases
  exact cases

-----------------------------------------------------------------------------------------
-- One character
-----------------------------------------------------------------------------------------

section Read

variable {c : Char} {b b₁ b₂ b₃ : UInt8} {x y z : Nat}

theorem decodeChar?_two (lead : 0xC0 ≤ b.toNat) (two : b.toNat < 0xE0)
    (bits : continuationBits? b₁ = some x)
    (isChar : charFrom? 0x80 ((b.toNat - 0xC0) * 64 + x) = some c) (rest : Bytes)
    : decodeChar? (b :: b₁ :: rest) = some (c, rest) := by
  unfold decodeChar?
  dsimp only
  rw [if_neg (by omega), if_neg (by omega), if_pos two]
  refine Option.bind_eq_some_iff.mpr ⟨x, bits, ?_⟩
  exact Option.map_eq_some_iff.mpr ⟨c, isChar, rfl⟩

theorem decodeChar?_three (lead : 0xE0 ≤ b.toNat) (three : b.toNat < 0xF0)
    (bits : continuationBits? b₁ = some x) (bits' : continuationBits? b₂ = some y)
    (isChar : charFrom? 0x800 ((b.toNat - 0xE0) * 4096 + x * 64 + y) = some c) (rest : Bytes)
    : decodeChar? (b :: b₁ :: b₂ :: rest) = some (c, rest) := by
  unfold decodeChar?
  dsimp only
  rw [if_neg (by omega), if_neg (by omega), if_neg (by omega), if_pos three]
  refine Option.bind_eq_some_iff.mpr ⟨x, bits, ?_⟩
  refine Option.bind_eq_some_iff.mpr ⟨y, bits', ?_⟩
  exact Option.map_eq_some_iff.mpr ⟨c, isChar, rfl⟩

theorem decodeChar?_four (lead : 0xF0 ≤ b.toNat) (four : b.toNat < 0xF8)
    (bits : continuationBits? b₁ = some x) (bits' : continuationBits? b₂ = some y)
    (bits'' : continuationBits? b₃ = some z)
    (isChar
      : charFrom? 0x10000 ((b.toNat - 0xF0) * 262144 + x * 4096 + y * 64 + z) = some c)
    (rest : Bytes)
    : decodeChar? (b :: b₁ :: b₂ :: b₃ :: rest) = some (c, rest) := by
  unfold decodeChar?
  dsimp only
  rw [if_neg (by omega), if_neg (by omega), if_neg (by omega), if_neg (by omega), if_pos four]
  refine Option.bind_eq_some_iff.mpr ⟨x, bits, ?_⟩
  refine Option.bind_eq_some_iff.mpr ⟨y, bits', ?_⟩
  refine Option.bind_eq_some_iff.mpr ⟨z, bits'', ?_⟩
  exact Option.map_eq_some_iff.mpr ⟨c, isChar, rfl⟩

end Read

theorem charFrom?_of_eq {least n : Nat} {c : Char} (same : n = c.toNat) (enough : least ≤ c.toNat)
    : charFrom? least n = some c := by
  rw [same, charFrom?_toNat enough]

theorem decodeChar?_encodeChar_append (c : Char) (rest : Bytes)
    : decodeChar? (encodeChar c ++ rest) = some (c, rest) := by
  have bound := toNat_lt c
  rw [encodeChar]
  split
  next one =>
    have lead : (UInt8.ofNat c.toNat).toNat = c.toNat := toNat_ofNat_of_lt (by omega)
    simp only [List.cons_append, List.nil_append, decodeChar?, lead, if_pos one,
      charFrom?_toNat (Nat.zero_le _), Option.map_eq_map, Option.map_some]
  next notOne =>
    split
    next two =>
      have lead : (UInt8.ofNat (0xC0 + c.toNat / 64)).toNat = 0xC0 + c.toNat / 64 :=
        toNat_ofNat_of_lt (by omega)
      have isChar := charFrom?_of_eq
        (by omega : ((UInt8.ofNat (0xC0 + c.toNat / 64)).toNat - 0xC0) * 64 + c.toNat % 64
          = c.toNat)
        (Nat.le_of_not_lt notOne)
      exact decodeChar?_two (by omega) (by omega) (continuationBits?_continuation _) isChar rest
    next notTwo =>
      split
      next three =>
        have lead : (UInt8.ofNat (0xE0 + c.toNat / 4096)).toNat = 0xE0 + c.toNat / 4096 :=
          toNat_ofNat_of_lt (by omega)
        have isChar := charFrom?_of_eq
          (by omega : ((UInt8.ofNat (0xE0 + c.toNat / 4096)).toNat - 0xE0) * 4096
            + c.toNat / 64 % 64 * 64 + c.toNat % 64 = c.toNat)
          (Nat.le_of_not_lt notTwo)
        exact decodeChar?_three (by omega) (by omega) (continuationBits?_continuation _)
          (continuationBits?_continuation _) isChar rest
      next notThree =>
        have lead : (UInt8.ofNat (0xF0 + c.toNat / 262144)).toNat = 0xF0 + c.toNat / 262144 :=
          toNat_ofNat_of_lt (by omega)
        have isChar := charFrom?_of_eq
          (by omega : ((UInt8.ofNat (0xF0 + c.toNat / 262144)).toNat - 0xF0) * 262144
            + c.toNat / 4096 % 64 * 4096 + c.toNat / 64 % 64 * 64 + c.toNat % 64 = c.toNat)
          (Nat.le_of_not_lt notThree)
        exact decodeChar?_four (by omega) (by omega) (continuationBits?_continuation _)
          (continuationBits?_continuation _) (continuationBits?_continuation _) isChar rest

section Written

variable {c : Char} {b b₁ b₂ b₃ : UInt8} {x y z : Nat}

theorem encodeChar_eq_two (lead : 0xC0 ≤ b.toNat) (two : b.toNat < 0xE0)
    (bits : continuationBits? b₁ = some x)
    (isChar : charFrom? 0x80 ((b.toNat - 0xC0) * 64 + x) = some c)
    : encodeChar c = [b, b₁] := by
  obtain ⟨small, continues⟩ := continuation_of_continuationBits? bits
  obtain ⟨n, enough⟩ := toNat_of_charFrom? isChar
  have first : 0xC0 + c.toNat / 64 = b.toNat := by omega
  rw [encodeChar, if_neg (by omega), if_pos (by omega), first, UInt8.ofNat_toNat,
    continues _ (by omega)]

theorem encodeChar_eq_three (lead : 0xE0 ≤ b.toNat) (three : b.toNat < 0xF0)
    (bits : continuationBits? b₁ = some x) (bits' : continuationBits? b₂ = some y)
    (isChar : charFrom? 0x800 ((b.toNat - 0xE0) * 4096 + x * 64 + y) = some c)
    : encodeChar c = [b, b₁, b₂] := by
  obtain ⟨small, continues⟩ := continuation_of_continuationBits? bits
  obtain ⟨small', continues'⟩ := continuation_of_continuationBits? bits'
  obtain ⟨n, enough⟩ := toNat_of_charFrom? isChar
  have first : 0xE0 + c.toNat / 4096 = b.toNat := by omega
  rw [encodeChar, if_neg (by omega), if_neg (by omega), if_pos (by omega), first,
    UInt8.ofNat_toNat, continues _ (by omega), continues' _ (by omega)]

theorem encodeChar_eq_four (lead : 0xF0 ≤ b.toNat)
    (bits : continuationBits? b₁ = some x) (bits' : continuationBits? b₂ = some y)
    (bits'' : continuationBits? b₃ = some z)
    (isChar
      : charFrom? 0x10000 ((b.toNat - 0xF0) * 262144 + x * 4096 + y * 64 + z) = some c)
    : encodeChar c = [b, b₁, b₂, b₃] := by
  obtain ⟨small, continues⟩ := continuation_of_continuationBits? bits
  obtain ⟨small', continues'⟩ := continuation_of_continuationBits? bits'
  obtain ⟨small'', continues''⟩ := continuation_of_continuationBits? bits''
  obtain ⟨n, enough⟩ := toNat_of_charFrom? isChar
  have first : 0xF0 + c.toNat / 262144 = b.toNat := by omega
  rw [encodeChar, if_neg (by omega), if_neg (by omega), if_neg (by omega), first,
    UInt8.ofNat_toNat, continues _ (by omega), continues' _ (by omega), continues'' _ (by omega)]

end Written

/-- Where a character can be read, the bytes start with its form, by cases on how many bytes the
first one announces.
-/
theorem encodeChar_append_of_decodeChar? {bytes rest : Bytes} {c : Char}
    (found : decodeChar? bytes = some (c, rest))
    : encodeChar c ++ rest = bytes := by
  cases bytes with
  | nil => cases found
  | cons b tail =>
      unfold decodeChar? at found
      dsimp only at found
      split at found
      next one =>
        obtain ⟨d, isChar, same⟩ := Option.map_eq_some_iff.mp found
        cases same
        have n := (toNat_of_charFrom? isChar).1
        simp only [encodeChar, n, if_pos one, UInt8.ofNat_toNat, List.cons_append, List.nil_append]
      next notOne =>
        split at found
        next => cases found
        next =>
          split at found
          next two =>
            split at found
            next b₁ tail =>
              obtain ⟨x, bits, found⟩ := Option.bind_eq_some_iff.mp found
              obtain ⟨d, isChar, same⟩ := Option.map_eq_some_iff.mp found
              cases same
              rw [encodeChar_eq_two (by omega) two bits isChar]
              rfl
            next => cases found
          next =>
            split at found
            next three =>
              split at found
              next b₁ b₂ tail =>
                obtain ⟨x, bits, found⟩ := Option.bind_eq_some_iff.mp found
                obtain ⟨y, bits', found⟩ := Option.bind_eq_some_iff.mp found
                obtain ⟨d, isChar, same⟩ := Option.map_eq_some_iff.mp found
                cases same
                rw [encodeChar_eq_three (by omega) three bits bits' isChar]
                rfl
              next => cases found
            next =>
              split at found
              next =>
                split at found
                next b₁ b₂ b₃ tail =>
                  obtain ⟨x, bits, found⟩ := Option.bind_eq_some_iff.mp found
                  obtain ⟨y, bits', found⟩ := Option.bind_eq_some_iff.mp found
                  obtain ⟨z, bits'', found⟩ := Option.bind_eq_some_iff.mp found
                  obtain ⟨d, isChar, same⟩ := Option.map_eq_some_iff.mp found
                  cases same
                  rw [encodeChar_eq_four (by omega) bits bits' bits'' isChar]
                  rfl
                next => cases found
              next => cases found

theorem length_encodeChar_pos (c : Char) : 0 < (encodeChar c).length := by
  unfold encodeChar
  dsimp only
  repeat' split
  all_goals simp

/-- The bytes of a character beyond ASCII are no ASCII characters. -/
theorem le_toNat_of_mem_encodeChar {c : Char} {b : UInt8} (beyond : ¬ c.toNat < 0x80)
    (member : b ∈ encodeChar c)
    : 0x80 ≤ b.toNat := by
  have bound := toNat_lt c
  have large : ∀ n, 0x80 ≤ n → n < 256 → 0x80 ≤ (UInt8.ofNat n).toNat := fun n low high =>
    (toNat_ofNat_of_lt high).symm ▸ low
  have continues : ∀ n, 0x80 ≤ (continuation n).toNat := fun n =>
    large _ (by omega) (by omega)
  rw [encodeChar, if_neg beyond] at member
  split at member
  next two =>
    simp only [List.mem_cons, List.not_mem_nil, or_false] at member
    rcases member with rfl | rfl
    · exact large _ (by omega) (by omega)
    · exact continues _
  next notTwo =>
    split at member
    next three =>
      simp only [List.mem_cons, List.not_mem_nil, or_false] at member
      rcases member with rfl | rfl | rfl
      · exact large _ (by omega) (by omega)
      · exact continues _
      · exact continues _
    next notThree =>
      simp only [List.mem_cons, List.not_mem_nil, or_false] at member
      rcases member with rfl | rfl | rfl | rfl
      · exact large _ (by omega) (by omega)
      · exact continues _
      · exact continues _
      · exact continues _

-----------------------------------------------------------------------------------------
-- Texts
-----------------------------------------------------------------------------------------

theorem encode_cons (c : Char) (text : List Char)
    : encode (c :: text) = encodeChar c ++ encode text :=
  List.flatMap_cons

theorem encode_append (first second : List Char)
    : encode (first ++ second) = encode first ++ encode second :=
  List.flatMap_append

/-- An ASCII text has one byte for each character. -/
theorem encode_of_ascii {text : List Char} (ascii : ∀ c ∈ text, c.toNat < 0x80)
    : encode text = text.map fun c => UInt8.ofNat c.toNat := by
  induction text with
  | nil => rfl
  | cons c others ih =>
      have first := ascii c (List.mem_cons_self ..)
      rw [encode_cons, ih fun d member => ascii d (List.mem_cons_of_mem _ member), encodeChar,
        if_pos first]
      rfl

/-- Enough fuel is a unit for each byte, by induction on the text. -/
theorem decodeLoop?_encode {fuel : Nat} {text : List Char} (enough : (encode text).length ≤ fuel)
    : decodeLoop? fuel (encode text) = some text := by
  induction text generalizing fuel with
  | nil => cases fuel <;> rfl
  | cons c rest ih =>
      have positive := length_encodeChar_pos c
      rw [encode_cons, List.length_append] at enough
      obtain ⟨fuel, rfl⟩ : ∃ less, fuel = less + 1 := ⟨fuel - 1, by omega⟩
      obtain ⟨b, tail, bytes⟩ := List.exists_cons_of_length_pos positive
      have first := decodeChar?_encodeChar_append c (encode rest)
      rw [bytes] at first
      simp only [encode_cons, bytes, List.cons_append, decodeLoop?] at first ⊢
      simp only [first, Option.bind_eq_bind, Option.bind_some, Option.map_eq_map,
        ih (by omega : (encode rest).length ≤ fuel), Option.map_some]

theorem encode_of_decodeLoop? {fuel : Nat} {bytes : Bytes} {text : List Char}
    (found : decodeLoop? fuel bytes = some text)
    : encode text = bytes := by
  induction fuel generalizing bytes text with
  | zero =>
      cases bytes with
      | nil => cases found; rfl
      | cons => cases found
  | succ fuel ih =>
      cases bytes with
      | nil => cases found; rfl
      | cons b tail =>
          obtain ⟨⟨c, rest⟩, isChar, found⟩ := Option.bind_eq_some_iff.mp found
          obtain ⟨others, isRest, same⟩ := Option.map_eq_some_iff.mp found
          cases same
          rw [encode_cons, ih isRest, encodeChar_append_of_decodeChar? isChar]

/-- A text is read back from its bytes. -/
theorem decode?_encode (text : List Char) : decode? (encode text) = some text :=
  decodeLoop?_encode (Nat.le_refl _)

/-- Bytes are read as the string that they are the form of. -/
theorem toString?_eq_some_iff {bytes : Bytes} {s : String}
    : toString? bytes = some s ↔ bytes = ofString s := by
  constructor
  · intro found
    obtain ⟨text, isText, same⟩ := Option.map_eq_some_iff.mp found
    cases same
    rw [ofString, String.toList_ofList, encode_of_decodeLoop? isText]
  · rintro rfl
    rw [toString?, ofString, decode?_encode]
    simp

end SatClient.Utf8
