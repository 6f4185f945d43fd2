/-!
# Cutting text at a separator

A text with separators is a nonempty list of segments. `splitOn` cuts at every occurrence of one
character and `splitOnPair` at every leftmost occurrence of a doubled character; both keep empty
segments, so joining the segments gives the text back (`joinWith_splitOn`,
`joinWith_splitOnPair`).
-/

namespace ModelForge

namespace Segments

/-- Puts a character in front of the first segment. -/
def consHead (c : Char) : List (List Char) → List (List Char)
  | [] => [[c]]
  | seg :: rest => (c :: seg) :: rest

/-- The segments between the occurrences of `sep`, empty ones included. -/
def splitOn (sep : Char) : List Char → List (List Char)
  | [] => [[]]
  | c :: rest => if c = sep then [] :: splitOn sep rest else consHead c (splitOn sep rest)

/-- The segments between the leftmost occurrences of `sep` written twice. -/
def splitOnPair (sep : Char) : List Char → List (List Char)
  | [] => [[]]
  | [c] => [[c]]
  | c :: d :: rest =>
    if c = sep ∧ d = sep then [] :: splitOnPair sep rest
    else consHead c (splitOnPair sep (d :: rest))

/-- The segments with `sep` written between neighbours. -/
def joinWith (sep : List Char) : List (List Char) → List Char
  | [] => []
  | [seg] => seg
  | seg :: next :: rest => seg ++ sep ++ joinWith sep (next :: rest)

theorem splitOn_ne_nil (sep : Char) (s : List Char) : splitOn sep s ≠ [] := by
  induction s with
  | nil => simp [splitOn]
  | cons c rest ih =>
    unfold splitOn
    split
    · simp
    · cases h : splitOn sep rest with
      | nil => exact absurd h ih
      | cons seg tail => simp [consHead]

theorem splitOnPair_ne_nil (sep : Char) (s : List Char) : splitOnPair sep s ≠ [] := by
  fun_induction splitOnPair sep s with
  | case1 => simp
  | case2 => simp
  | case3 => simp
  | case4 c d rest _ ih =>
    cases h : splitOnPair sep (d :: rest) with
    | nil => exact absurd h ih
    | cons seg tail => simp [consHead]

/-- A character in front of the first segment is one in front of the whole. -/
theorem joinWith_consHead (sep : List Char) (c : Char) {segs : List (List Char)}
    (h : segs ≠ []) : joinWith sep (consHead c segs) = c :: joinWith sep segs := by
  match segs, h with
  | [seg], _ => rfl
  | seg :: next :: rest, _ => simp [consHead, joinWith]

/-- An empty segment in front adds a separator. -/
theorem joinWith_nil_cons (sep : List Char) {segs : List (List Char)} (h : segs ≠ []) :
    joinWith sep ([] :: segs) = sep ++ joinWith sep segs := by
  match segs, h with
  | seg :: rest, _ => simp [joinWith]

/-- Joining undoes cutting at one character. -/
theorem joinWith_splitOn (sep : Char) (s : List Char) :
    joinWith [sep] (splitOn sep s) = s := by
  induction s with
  | nil => rfl
  | cons c rest ih =>
    unfold splitOn
    split
    · next h => rw [joinWith_nil_cons _ (splitOn_ne_nil sep rest), ih, h]; rfl
    · rw [joinWith_consHead _ _ (splitOn_ne_nil sep rest), ih]

/-- Joining undoes cutting at a doubled character. -/
theorem joinWith_splitOnPair (sep : Char) (s : List Char) :
    joinWith [sep, sep] (splitOnPair sep s) = s := by
  fun_induction splitOnPair sep s with
  | case1 => rfl
  | case2 => rfl
  | case3 c d rest h ih =>
    rw [joinWith_nil_cons _ (splitOnPair_ne_nil sep rest), ih, h.1, h.2]; rfl
  | case4 c d rest _ ih =>
    rw [joinWith_consHead _ _ (splitOnPair_ne_nil sep (d :: rest)), ih]

end Segments

end ModelForge
