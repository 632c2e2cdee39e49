import Mathlib.Data.List.Basic
import SatClient.Proofs.Text.Splitting
import SatClient.Url.Path

/-! Paths of texts with more behind them. Segments are followed one after another, so that a path
with another segment behind it starts with the segments that stay of it, and slashes behind it
only add empty segments to these.
-/

namespace SatClient.Url.Path

open Text

-----------------------------------------------------------------------------------------
-- Segments with more to come
-----------------------------------------------------------------------------------------

/-- The segments that stay, in reverse, after one more that is not the last. -/
def step (stay : List (List Char)) (segment : List Char) : List (List Char) :=
  if isDoubleDot segment then up stay
  else if isDot segment then stay
  else segment :: stay

theorem follow_cons {rest : List (List Char)} (some : rest ≠ []) (stay : List (List Char))
    (segment : List Char)
    : follow stay (segment :: rest) = follow (step stay segment) rest := by
  obtain ⟨next, others, rfl⟩ := List.exists_cons_of_ne_nil some
  rw [follow, step]
  · split
    · rfl
    · split <;> rfl
  · exact some

theorem follow_append {rest : List (List Char)} (some : rest ≠ []) (stay first : List (List Char))
    : follow stay (first ++ rest) = follow (first.foldl step stay) rest := by
  induction first generalizing stay with
  | nil => rfl
  | cons segment first ih =>
      rw [List.cons_append, follow_cons (by simp [some]), ih, List.foldl_cons]

/-- A segment with dots moves within the path, and any other one stays in it. -/
def Stays (segment : List Char) : Prop := isDoubleDot segment = false ∧ isDot segment = false

theorem Stays.step {segment : List Char} (stays : Stays segment) (stay : List (List Char))
    : step stay segment = segment :: stay := by
  simp [Path.step, stays.1, stays.2]

theorem Stays.follow {segment : List Char} (stays : Stays segment) (stay : List (List Char))
    : follow stay [segment] = stay.reverse ++ [segment] := by
  simp [Path.follow, stays.1, stays.2]

theorem stays_nil : Stays [] := by
  constructor <;> decide

theorem follow_replicate (stay : List (List Char)) (count : Nat)
    : follow stay (List.replicate (count + 1) [])
      = stay.reverse ++ List.replicate (count + 1) [] := by
  induction count generalizing stay with
  | zero => exact stays_nil.follow stay
  | succ count ih =>
      rw [List.replicate_succ, follow_cons (by simp), ih, stays_nil.step]
      simp [List.replicate_succ]

/-- The last segment is followed like the others, but a path that ends in dots ends with a slash.
-/
theorem exists_follow_last (stay : List (List Char)) (last : List Char)
    : ∃ count, follow stay [last] = (step stay last).reverse ++ List.replicate count [] := by
  rw [follow, step]
  split
  · exact ⟨1, by simp⟩
  · split
    · exact ⟨1, by simp⟩
    · exact ⟨0, by simp⟩

-----------------------------------------------------------------------------------------
-- Texts with more behind them
-----------------------------------------------------------------------------------------

/-- A character, or the slash that a backslash stands for. -/
def slash (c : Char) : Char := if c == '\\' then '/' else c

/-- What can follow a server: nothing, or a slash of either kind and any text. -/
def Starts (text : List Char) : Prop := ∀ c ∈ text.head?, slash c = '/'

/-- The segments of a text between its slashes. -/
def segments (text : List Char) : List (List Char) :=
  ((text.map slash).splitOn '/').map Part.path.escaped

/-- The segments of a text in front of the slash that is to follow it. -/
def leading : List Char → List (List Char)
  | [] => []
  | _ :: text => segments text

/-- The segments that stay of a text that a slash follows. -/
def stem (text : List Char) : Path := ((leading text).foldl step []).reverse

theorem parse_cons {c : Char} (starts : slash c = '/') (text : List Char)
    : parse (c :: text) = follow [] (segments text) := by
  have first : (if c == '\\' then '/' else c) = '/' := starts
  rw [parse, List.map_cons, first]
  rfl

theorem segments_append_slash (front back : List Char)
    : segments (front ++ '/' :: back) = segments front ++ segments back := by
  rw [segments, List.map_append, List.map_cons, show slash '/' = '/' from rfl,
    List.splitOn_append_cons_self, List.map_append]
  rfl

theorem segments_ne_nil (text : List Char) : segments text ≠ [] := by
  rw [segments]
  simp

theorem segments_replicate (count : Nat)
    : segments (List.replicate count '/') = List.replicate (count + 1) [] := by
  induction count with
  | zero => rfl
  | succ count ih =>
      rw [List.replicate_succ, ← List.nil_append ('/' :: _), segments_append_slash, ih]
      rfl

/-- Behind a slash the segments go on from those that stay of the text before it. -/
theorem parse_append_slash {front : List Char} (starts : Starts front) (back : List Char)
    : parse (front ++ '/' :: back) = follow (stem front).reverse (segments back) := by
  rw [stem, List.reverse_reverse]
  cases front with
  | nil => exact parse_cons rfl back
  | cons c rest =>
      rw [List.cons_append, parse_cons (starts c rfl), segments_append_slash,
        follow_append (segments_ne_nil back)]
      rfl

/-- A name behind a slash is one more segment. -/
theorem parse_append_name {front : List Char} (name : List Char) (starts : Starts front)
    (whole : segments name = [name]) (stays : Stays name)
    : parse (front ++ '/' :: name) = stem front ++ [name] := by
  rw [parse_append_slash starts, whole, stays.follow, List.reverse_reverse]

/-- Slashes behind a text add empty segments to those that stay of it. -/
theorem exists_parse_append_slashes {front : List Char} (starts : Starts front) (count : Nat)
    : ∃ more, parse (front ++ List.replicate count '/') = stem front ++ List.replicate more [] := by
  cases count with
  | zero =>
      rw [List.replicate_zero, List.append_nil]
      cases front with
      | nil => exact ⟨1, rfl⟩
      | cons c rest =>
          obtain ⟨others, last, same⟩ :=
            (List.eq_nil_or_concat' _).resolve_left (segments_ne_nil rest)
          obtain ⟨more, done⟩ := exists_follow_last (others.foldl step []) last
          refine ⟨more, ?_⟩
          rw [parse_cons (starts c rfl), stem, leading, same, follow_append (by simp), done,
            List.foldl_append]
          rfl
  | succ count =>
      refine ⟨count + 1, ?_⟩
      rw [List.replicate_succ, parse_append_slash starts, segments_replicate, follow_replicate,
        List.reverse_reverse]

-----------------------------------------------------------------------------------------
-- Written paths
-----------------------------------------------------------------------------------------

theorem text_append (first second : Path) : text (first ++ second) = text first ++ text second :=
  List.flatMap_append

theorem text_replicate (count : Nat)
    : text (List.replicate count []) = List.replicate count '/' := by
  induction count with
  | zero => rfl
  | succ count ih =>
      rw [List.replicate_succ, List.replicate_succ, text, List.flatMap_cons]
      rw [text] at ih
      rw [ih]
      rfl

end SatClient.Url.Path
