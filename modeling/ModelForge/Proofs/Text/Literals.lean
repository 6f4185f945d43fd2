import Mathlib.Algebra.Group.Nat.Defs
import ModelForge.Proofs.Text.Hex
import ModelForge.Proofs.Text.Packages

/-! # Literals are read back

`ModelForge.Quoted.literal?` reads a literal of generated code: from a quote to the next one of its
kind, on one line, with a backslash in front of a letter or in front of the number of a character.
`ModelForge.Quoted.tuple?` reads a tuple of literals. Whatever texts are written as literals, they
are read back (`ModelForge.Quoted.literal?_quote`, `ModelForge.Quoted.tuple?_tuple`), so different
texts have different literals, and nothing that is written breaks the line
(`ModelForge.Quoted.line_not_mem_tuple`).
-/

namespace ModelForge

/-- What none of three parts holds, the joined text does not hold. -/
theorem not_mem_between {c : Char} {first middle last : String} (before : c ∉ first.toList)
    (inside : c ∉ middle.toList) (after : c ∉ last.toList) :
    c ∉ (first ++ middle ++ last).toList := by
  rw [String.toList_append, String.toList_append, List.mem_append, List.mem_append]
  rintro ((member | member) | member)
  · exact before member
  · exact inside member
  · exact after member

namespace Quoted

/-! ## The reader -/

/-- Where a reader stands inside a literal: between characters, behind a backslash, or in front of
the last hexadecimal digits of a number. -/
inductive Place where
  | between
  | letter
  | number (left value : Nat)

/-- The number of digits behind a letter. -/
def width? : Char → Option Nat
  | 'x' => some 2
  | 'u' => some 4
  | 'U' => some 8
  | _ => none

/-- The character that a letter behind a backslash stands for. -/
def letter? : Char → Option Char
  | 't' => some '\t'
  | 'n' => some '\n'
  | 'r' => some '\r'
  | c => if c = '\\' ∨ c = '\'' ∨ c = '"' then some c else none

/-- Adds a character to what is read behind it. -/
def withChar (c : Char) (read : List Char × List Char) : List Char × List Char :=
  (c :: read.1, read.2)

/-- Reads up to the closing quote, and gives what follows it. -/
def body? (q : Char) : Place → List Char → Option (List Char × List Char)
  | _, [] => none
  | .between, c :: rest =>
    if c = q then some ([], rest)
    else if c = '\\' then body? q .letter rest
    else if c = '\n' ∨ c = '\r' then none
    else (body? q .between rest).map (withChar c)
  | .letter, c :: rest =>
    match width? c with
    | some width => body? q (.number width 0) rest
    | none => (letter? c).bind fun d => (body? q .between rest).map (withChar d)
  | .number left value, c :: rest =>
    (Hex.digit? c).bind fun digit =>
      let value := 16 * value + digit
      if left = 1 then
        if value.isValidChar then (body? q .between rest).map (withChar (Char.ofNat value))
        else none
      else body? q (.number (left - 1) value) rest

/-- Reads a literal, and gives what follows it. -/
def literal? : List Char → Option (String × List Char)
  | [] => none
  | q :: rest =>
    if q = '\'' ∨ q = '"' then
      (body? q .between rest).map fun read => (String.ofList read.1, read.2)
    else none

/-- Reads literals with commas between them up to the closing parenthesis. A text holds no more of
them than it has characters. -/
def items? : Nat → List Char → Option (List String × List Char)
  | 0, _ => none
  | fuel + 1, s =>
    match literal? s with
    | some (item, ')' :: rest) => some ([item], rest)
    | some (item, ',' :: ' ' :: rest) =>
      (items? fuel rest).map fun read => (item :: read.1, read.2)
    | _ => none

/-- Reads a text that is a tuple of literals and nothing else. A single item has a comma behind
it. -/
def tuple? : List Char → Option (List String)
  | '(' :: s =>
    match literal? s with
    | some (item, [',', ')']) => some [item]
    | some (item, ',' :: ' ' :: rest) =>
      match items? rest.length rest with
      | some (items, []) => some (item :: items)
      | _ => none
    | some _ => none
    | none => if s = [')'] then some [] else none
  | _ => none

/-! ## Characters -/

variable {q c : Char} {s rest : List Char} {items : List String}

/-- Digits in front of the last ones add to the number. -/
theorem body?_hexDigits {width n : Nat} (small : n < 16 ^ width) (left value : Nat)
    (rest : List Char) :
    body? q (.number (width + left + 1) value) (hexDigits width n ++ rest) =
      body? q (.number (left + 1) (value * 16 ^ width + n)) rest := by
  induction width generalizing n left rest with
  | zero =>
    have none : n = 0 := by simpa using small
    simp [hexDigits, none]
  | succ width ih =>
    have high : n / 16 < 16 ^ width := by
      rw [Nat.pow_succ] at small
      omega
    have shape : width + 1 + left + 1 = width + (left + 1) + 1 := by omega
    rw [hexDigits, List.append_assoc, shape, ih high (left + 1), List.singleton_append, body?,
      Hex.digit?_hexDigit _ (Nat.mod_lt n (by decide)), Option.bind_some, if_neg (by omega)]
    have shifted : value * 16 ^ (width + 1) = 16 * (value * 16 ^ width) := by
      rw [Nat.pow_succ, ← Nat.mul_assoc, Nat.mul_comm]
    congr 2
    omega

/-- A character that is written by its number is read back. -/
theorem body?_number (width : Nat) (small : c.toNat < 16 ^ (width + 1)) (rest : List Char) :
    body? q (.number (width + 1) 0) (hexDigits (width + 1) c.toNat ++ rest) =
      (body? q .between rest).map (withChar c) := by
  have high : c.toNat / 16 < 16 ^ width := by
    rw [Nat.pow_succ] at small
    omega
  have digits := body?_hexDigits (q := q) high 0 0
    (Utf8.hexDigit (c.toNat % 16) :: rest)
  have valid : c.toNat.isValidChar := c.valid
  have whole : 16 * (0 * 16 ^ width + c.toNat / 16) + c.toNat % 16 = c.toNat := by omega
  rw [hexDigits, List.append_assoc, List.singleton_append, digits, body?,
    Hex.digit?_hexDigit _ (Nat.mod_lt _ (by decide)), Option.bind_some]
  dsimp only
  rw [whole, if_pos rfl, if_pos valid, Char.ofNat_toNat]

/-- A quoted character is read back. -/
theorem body?_escapeChar (quote : q = '\'' ∨ q = '"') (c : Char) (rest : List Char) :
    body? q .between (escapeChar q c ++ rest) = (body? q .between rest).map (withChar c) := by
  have slash : '\\' ≠ q := by
    rcases quote with rfl | rfl <;> decide
  have behind (s : List Char) : body? q .between ('\\' :: s) = body? q .letter s := by
    rw [body?, if_neg slash, if_pos rfl]
  unfold escapeChar
  by_cases itself : c = q ∨ c = '\\'
  · rw [if_pos itself, List.cons_append, behind]
    have known : c = '\'' ∨ c = '"' ∨ c = '\\' := by
      rcases itself with rfl | rfl
      · exact quote.imp_right .inl
      · exact .inr (.inr rfl)
    rcases known with rfl | rfl | rfl <;> rfl
  · obtain ⟨notQuote, notSlash⟩ := not_or.mp itself
    rw [if_neg itself]
    by_cases tab : c = '\t'
    · rw [if_pos tab, tab]
      exact behind ('t' :: rest)
    by_cases line : c = '\n'
    · rw [if_neg tab, if_pos line, line]
      exact behind ('n' :: rest)
    by_cases feed : c = '\r'
    · rw [if_neg tab, if_neg line, if_pos feed, feed]
      exact behind ('r' :: rest)
    rw [if_neg tab, if_neg line, if_neg feed]
    by_cases printable : isPrintable c = true
    · rw [if_pos printable, List.singleton_append, body?, if_neg notQuote, if_neg notSlash,
        if_neg (not_or.mpr ⟨line, feed⟩)]
    rw [if_neg printable]
    have valid : c.toNat < 0xD800 ∨ 0xDFFF < c.toNat ∧ c.toNat < 0x110000 := c.valid
    by_cases short : c.toNat < 0x100
    · rw [if_pos short]
      exact (behind _).trans (body?_number 1 (by omega) rest)
    by_cases middle : c.toNat < 0x10000
    · rw [if_neg short, if_pos middle]
      exact (behind _).trans (body?_number 3 (by omega) rest)
    · rw [if_neg short, if_neg middle]
      exact (behind _).trans (body?_number 7 (by omega) rest)

/-! ## Literals -/

/-- The body of a literal is read up to its quote. -/
theorem body?_flatMap (quote : q = '\'' ∨ q = '"') (s rest : List Char) :
    body? q .between (s.flatMap (escapeChar q) ++ q :: rest) = some (s, rest) := by
  induction s with
  | nil => exact if_pos rfl
  | cons c s ih =>
    rw [List.flatMap_cons, List.append_assoc, body?_escapeChar quote, ih]
    rfl

/-- Texts stand in one of two quotes. -/
theorem delimiter_cases (s : List Char) : delimiter s = '\'' ∨ delimiter s = '"' := by
  unfold delimiter
  split
  · exact .inr rfl
  · exact .inl rfl

/-- A quoted text: its characters, escaped, between quotes. -/
theorem toList_quote (s : String) : (quote s).toList =
    delimiter s.toList ::
      (s.toList.flatMap (escapeChar (delimiter s.toList)) ++ [delimiter s.toList]) :=
  String.toList_ofList

/-- A literal is read back, whatever follows it. -/
theorem literal?_quote (s : String) (rest : List Char) :
    literal? ((quote s).toList ++ rest) = some (s, rest) := by
  have kind := delimiter_cases s.toList
  rw [toList_quote, List.cons_append, List.append_assoc, List.singleton_append, literal?,
    if_pos kind, body?_flatMap kind, Option.map_some, String.ofList_toList]

/-- Texts are told apart by their literals. -/
theorem quote_injective : Function.Injective quote := by
  intro a b same
  have read := literal?_quote a []
  rw [same, literal?_quote b []] at read
  exact (congrArg Prod.fst (Option.some.inj read)).symm

theorem toList_joined_cons (first next : String) (others : List String) :
    (String.intercalate ", " ((first :: next :: others).map quote)).toList =
      (quote first).toList ++
        ',' :: ' ' :: (String.intercalate ", " ((next :: others).map quote)).toList := by
  simp only [Segments.toList_intercalate, List.map_cons, Segments.joinWith, List.append_assoc]
  rfl

/-- A list of literals has no fewer letters than items. -/
theorem length_le_joined (items : List String) :
    items.length ≤ (String.intercalate ", " (items.map quote)).toList.length := by
  induction items with
  | nil => exact Nat.zero_le _
  | cons first others ih =>
    cases others with
    | nil =>
      rw [List.map_singleton, String.intercalate_singleton, toList_quote]
      simp
    | cons next others =>
      rw [toList_joined_cons]
      simp only [List.length_cons, List.length_append] at ih ⊢
      omega

/-- The items of a tuple are read back. -/
theorem items?_joined {fuel : Nat} (some_item : items ≠ []) (enough : items.length ≤ fuel)
    (rest : List Char) :
    items? fuel ((String.intercalate ", " (items.map quote)).toList ++ ')' :: rest) =
      some (items, rest) := by
  induction items generalizing fuel with
  | nil => exact absurd rfl some_item
  | cons first others ih =>
    cases fuel with
    | zero => exact absurd enough (by simp)
    | succ fuel =>
      cases others with
      | nil =>
        rw [List.map_singleton, String.intercalate_singleton, items?, literal?_quote]
        rfl
      | cons next others =>
        have behind := ih (List.cons_ne_nil next others) (Nat.le_of_succ_le_succ enough)
        rw [toList_joined_cons, List.append_assoc, items?, literal?_quote]
        exact congrArg (Option.map fun read => (first :: read.1, read.2)) behind

theorem tuple_cons_cons (first next : String) (others : List String) :
    tuple (first :: next :: others) =
      "(" ++ String.intercalate ", " ((first :: next :: others).map quote) ++ ")" := rfl

/-- A tuple is read back. -/
theorem tuple?_tuple (items : List String) : tuple? (tuple items).toList = some items := by
  match items with
  | [] => rfl
  | [item] =>
    have shape : (tuple [item]).toList = '(' :: ((quote item).toList ++ [',', ')']) := by
      unfold tuple
      rw [String.toList_append, String.toList_append]
      rfl
    rw [shape, tuple?, literal?_quote]
    rfl
  | first :: next :: others =>
    have shape : (tuple (first :: next :: others)).toList =
        '(' :: ((quote first).toList ++ ',' :: ' ' ::
          ((String.intercalate ", " ((next :: others).map quote)).toList ++ [')'])) := by
      rw [tuple_cons_cons, String.toList_append, String.toList_append, toList_joined_cons]
      simp
    have enough : (next :: others).length ≤
        ((String.intercalate ", " ((next :: others).map quote)).toList ++ [')']).length := by
      rw [List.length_append]
      exact Nat.le_add_right_of_le (length_le_joined (next :: others))
    have behind := items?_joined (List.cons_ne_nil next others) enough []
    rw [shape, tuple?, literal?_quote]
    change (match items? (_ ++ [')']).length (_ ++ [')']) with
      | some (items, []) => some (first :: items)
      | _ => none) = _
    rw [behind]

/-- Tuples are told apart by their literals. -/
theorem tuple_injective : Function.Injective tuple := by
  intro a b same
  have read := tuple?_tuple a
  rw [same, tuple?_tuple b] at read
  exact (Option.some.inj read).symm

/-! ## Lines -/

/-- Digits can be printed. -/
theorem printable_hexDigits {width n : Nat} (member : c ∈ hexDigits width n) :
    isPrintable c = true := by
  have digits : ∀ n < 16, isPrintable (Utf8.hexDigit n) = true := by decide
  induction width generalizing n with
  | zero => cases member
  | succ width ih =>
    rw [hexDigits, List.mem_append, List.mem_singleton] at member
    rcases member with before | rfl
    · exact ih before
    · exact digits _ (Nat.mod_lt n (by decide))

/-- Whatever a character is escaped to can be printed. -/
theorem printable_escapeChar {d : Char} (quote : isPrintable q = true)
    (member : c ∈ escapeChar q d) : isPrintable c = true := by
  have letter {e : Char} (known : isPrintable e = true) {s : List Char}
      (behind : c ∈ s → isPrintable c = true) (inside : c ∈ '\\' :: e :: s) :
      isPrintable c = true := by
    rw [List.mem_cons, List.mem_cons] at inside
    rcases inside with rfl | rfl | inside
    · rfl
    · exact known
    · exact behind inside
  have nothing : c ∈ [] → isPrintable c = true := fun none => absurd none List.not_mem_nil
  unfold escapeChar at member
  split at member
  · next itself =>
    refine letter ?_ nothing member
    rcases itself with rfl | rfl
    · exact quote
    · rfl
  split at member
  · exact letter rfl nothing member
  split at member
  · exact letter rfl nothing member
  split at member
  · exact letter rfl nothing member
  split at member
  · next printable => rwa [List.mem_singleton.mp member]
  split at member
  · exact letter rfl printable_hexDigits member
  split at member
  · exact letter rfl printable_hexDigits member
  · exact letter rfl printable_hexDigits member

/-- A literal has no characters but such that stand for themselves. -/
theorem printable_quote {text : String} (member : c ∈ (quote text).toList) :
    isPrintable c = true := by
  have kind : isPrintable (delimiter text.toList) = true := by
    rcases delimiter_cases text.toList with same | same <;> rw [same] <;> rfl
  rw [toList_quote, List.mem_cons, List.mem_append, List.mem_singleton] at member
  rcases member with rfl | inside | rfl
  · exact kind
  · obtain ⟨d, -, escaped⟩ := List.mem_flatMap.mp inside
    exact printable_escapeChar kind escaped
  · exact kind

/-- A literal stays on its line. -/
theorem line_not_mem_quote (text : String) : '\n' ∉ (quote text).toList :=
  fun member => absurd (printable_quote member) (by decide)

/-- A tuple stays on its line. -/
theorem line_not_mem_tuple (items : List String) : '\n' ∉ (tuple items).toList := by
  have joined : '\n' ∉ (String.intercalate ", " (items.map quote)).toList := by
    rw [Segments.toList_intercalate, List.map_map]
    intro inside
    rcases Segments.mem_joinWith inside with comma | ⟨seg, member, within⟩
    · exact absurd comma (by decide)
    · obtain ⟨item, -, rfl⟩ := List.mem_map.mp member
      exact line_not_mem_quote item within
  cases items with
  | nil => decide
  | cons first others =>
    cases others with
    | nil => exact not_mem_between (by decide) (line_not_mem_quote first) (by decide)
    | cons next others =>
      rw [tuple_cons_cons]
      exact not_mem_between (by decide) joined (by decide)

end Quoted

end ModelForge
