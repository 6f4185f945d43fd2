import ModelForge.Document.Json
import ModelForge.Proofs.Text.Utf8

/-! # JSON texts are read back

A value of texts, natural numbers, nulls, lists and objects that is not nested too deeply is read
back from its JSON text (`ModelForge.Json.parse?_print`). Strings are read back escape by escape and
numbers digit by digit; lists and objects follow by induction on the value.
-/

namespace ModelForge

namespace Json

variable {level fuel depth n k : Nat} {c : Char} {s : String} {rest more : List Char} {v : Value}

/-! ## Strings -/

private theorem hex4_hexDigits_control :
    ∀ n < 0x20, ∃ a b c d, Quoted.hexDigits 4 n = [a, b, c, d] ∧ hex4 a b c d = some n := by
  intro n small
  refine ⟨_, _, _, _, rfl, ?_⟩
  revert n
  decide

/-- What a code in front adds to the outcome of reading a string. -/
private def withCode (n : Nat) (outcome : List Nat × List Char) : List Nat × List Char :=
  (n :: outcome.1, outcome.2)

private theorem stringBody_letter {e : Char} (letter : letterEscape e = some c) (other : e ≠ 'u')
    (rest : List Char) :
    stringBody ('\\' :: e :: rest) = (stringBody rest).map (withCode c.toNat) := by
  rw [stringBody, letter]
  · cases stringBody rest <;> rfl
  · intro a b c d more same
    exact absurd same other

/-- A character is escaped by a letter or by number, or stands for itself. -/
private theorem escapeChar_cases (c : Char) :
    (∃ e, letterEscape e = some c ∧ e ≠ 'u' ∧ escapeChar c = ['\\', e]) ∨
      (c.toNat < 0x20 ∧ escapeChar c = '\\' :: 'u' :: Quoted.hexDigits 4 c.toNat) ∨
      (¬ c.toNat < 0x20 ∧ c ≠ '"' ∧ c ≠ '\\' ∧ escapeChar c = [c]) := by
  unfold escapeChar
  split
  · next same => subst same; exact .inl ⟨'"', rfl, by decide, rfl⟩
  split
  · next same => subst same; exact .inl ⟨'\\', rfl, by decide, rfl⟩
  split
  · next same => subst same; exact .inl ⟨'n', rfl, by decide, rfl⟩
  split
  · next same => subst same; exact .inl ⟨'r', rfl, by decide, rfl⟩
  split
  · next same => subst same; exact .inl ⟨'t', rfl, by decide, rfl⟩
  split
  · next same => exact .inl ⟨'b', congrArg some (by rw [← same, Char.ofNat_toNat]), by decide, rfl⟩
  split
  · next same => exact .inl ⟨'f', congrArg some (by rw [← same, Char.ofNat_toNat]), by decide, rfl⟩
  split
  · next control => exact .inr (.inl ⟨control, rfl⟩)
  · next notQuote notSlash _ _ _ _ _ plain => exact .inr (.inr ⟨plain, notQuote, notSlash, rfl⟩)

/-- An escaped character is read as that character. -/
theorem stringBody_escapeChar (c : Char) (rest : List Char) :
    stringBody (escapeChar c ++ rest) = (stringBody rest).map (withCode c.toNat) := by
  rcases escapeChar_cases c with ⟨e, letter, other, same⟩ | ⟨control, same⟩ |
    ⟨plain, notQuote, notSlash, same⟩ <;> rw [same]
  · exact stringBody_letter letter other rest
  · obtain ⟨h₁, h₂, h₃, h₄, digits, value⟩ := hex4_hexDigits_control c.toNat control
    rw [digits]
    change stringBody ('\\' :: 'u' :: h₁ :: h₂ :: h₃ :: h₄ :: rest) = _
    rw [stringBody, value]
    cases stringBody rest <;> rfl
  · have itself : ¬ (c.toNat < 0x20 ∨ c = '\\') := by
      rintro (below | slash)
      · exact plain below
      · exact notSlash slash
    rw [List.singleton_append, stringBody, if_neg itself]
    · cases stringBody rest <;> rfl
    · exact notQuote
    · intro _ _ _ _ _ slash
      exact absurd slash notSlash
    · intro _ _ slash
      exact absurd slash notSlash

/-- The codes of an escaped text are read up to its closing quote. -/
theorem stringBody_escaped (cs rest : List Char) :
    stringBody (cs.flatMap escapeChar ++ '"' :: rest) = some (cs.map Char.toNat, rest) := by
  induction cs with
  | nil => rfl
  | cons c cs ih =>
    rw [List.flatMap_cons, List.append_assoc, stringBody_escapeChar, ih]
    rfl

private theorem not_surrogate (c : Char) : ¬ (0xD800 ≤ c.toNat ∧ c.toNat ≤ 0xDFFF) := by
  have scalar : c.toNat < 0xD800 ∨ 0xDFFF < c.toNat ∧ c.toNat < 0x110000 := c.valid
  omega

/-- Characters hold no surrogates, so none are joined. -/
private theorem joinPairs_toNat (cs : List Char) :
    joinPairs (cs.map Char.toNat) = cs.map Char.toNat := by
  induction cs with
  | nil => rfl
  | cons c cs ih =>
    cases cs with
    | nil => rfl
    | cons d cs =>
      have scalar := not_surrogate c
      rw [List.map_cons, List.map_cons, joinPairs, if_neg (by omega)]
      rw [List.map_cons] at ih
      rw [ih]

private theorem textOf_toNat (cs : List Char) :
    textOf (cs.map Char.toNat) = .text (String.ofList cs) := by
  have whole : ((cs.map Char.toNat).any fun n => 0xD800 ≤ n && n ≤ 0xDFFF) = false := by
    rw [List.any_eq_false]
    intro n member
    obtain ⟨c, -, rfl⟩ := List.mem_map.mp member
    simpa using not_surrogate c
  unfold textOf
  rw [whole]
  simp only [Bool.false_eq_true, ↓reduceIte, List.map_map, Value.text.injEq]
  congr 1
  refine (List.map_congr_left fun c _ => ?_).trans (List.map_id cs)
  exact Char.ofNat_toNat c

/-- A quoted text is read back. -/
theorem string?_escaped (s : String) (rest : List Char) :
    string? (s.toList.flatMap escapeChar ++ '"' :: rest) = some (.text s, rest) := by
  unfold string?
  rw [stringBody_escaped, Option.map_some]
  dsimp only
  rw [joinPairs_toNat, textOf_toNat, String.ofList_toList]

/-- A quoted text: its characters, escaped, between quotes. -/
theorem toList_quote (s : String) :
    (quote s).toList = '"' :: (s.toList.flatMap escapeChar ++ ['"']) := by
  rw [quote, String.toList_ofList, List.cons_append]

/-! ## Numbers -/

/-- Characters at which a number ends. -/
def NumberEnds (rest : List Char) : Prop :=
  ∀ c ∈ rest.head?, c.isDigit = false ∧ c ≠ '.' ∧ c ≠ 'e' ∧ c ≠ 'E'

private theorem isDigit_of_mem_toDigits (member : c ∈ Nat.toDigits 10 n) : c.isDigit = true :=
  Nat.isDigit_of_mem_toDigits (by decide) (by decide) member

private theorem takeWhile_toDigits (n : Nat) (stops : NumberEnds rest) :
    (Nat.toDigits 10 n ++ rest).takeWhile Char.isDigit = Nat.toDigits 10 n := by
  rw [List.takeWhile_append_of_pos fun c member => isDigit_of_mem_toDigits member]
  cases rest with
  | nil => exact List.append_nil _
  | cons c rest =>
    have digit : c.isDigit = false := (stops c rfl).1
    simp only [List.takeWhile_cons, digit, Bool.false_eq_true, ↓reduceIte, List.append_nil]

private theorem dropWhile_toDigits (n : Nat) (stops : NumberEnds rest) :
    (Nat.toDigits 10 n ++ rest).dropWhile Char.isDigit = rest := by
  rw [List.dropWhile_append_of_pos fun c member => isDigit_of_mem_toDigits member]
  cases rest with
  | nil => rfl
  | cons c rest =>
    have digit : c.isDigit = false := (stops c rfl).1
    simp only [List.dropWhile_cons, digit, Bool.false_eq_true, ↓reduceIte]

/-- A number is written without zeros in front. -/
private theorem head?_toDigits {n : Nat} (positive : 0 < n) :
    (Nat.toDigits 10 n).head? ≠ some '0' := by
  induction n using Nat.strongRecOn with
  | _ n ih =>
    by_cases small : n < 10
    · rw [Nat.toDigits_of_lt_base small]
      have digits : ∀ m < 10, 0 < m → [m.digitChar].head? ≠ some '0' := by decide
      exact digits n small positive
    · obtain ⟨c, cs, digits⟩ :=
        List.exists_cons_of_ne_nil (Nat.toDigits_ne_nil (n := n / 10) (b := 10))
      have smaller := ih (n / 10) (by omega) (by omega)
      rw [Nat.toDigits_of_base_le (by decide) (by omega), digits, List.cons_append]
      rw [digits] at smaller
      exact smaller

private theorem natOf_toDigits (n : Nat) : natOf (Nat.toDigits 10 n) = n := by
  have same : natOf (Nat.toDigits 10 n) = Nat.ofDigitChars 10 (Nat.toDigits 10 n) 0 := by
    rw [Nat.ofDigitChars_eq_foldl]
    unfold natOf
    congr 1
    funext acc c
    rw [Nat.mul_comm]
    rfl
  rw [same, Nat.ofDigitChars_ten_toDigits]

private theorem exponent?_of_numberEnds (stops : NumberEnds rest) :
    exponent? rest = some (none, rest) := by
  unfold exponent?
  cases rest with
  | nil => rfl
  | cons c rest =>
    obtain ⟨-, -, notSmall, notLarge⟩ := stops c rfl
    dsimp only
    rw [if_neg (by rintro (same | same); exact notSmall same; exact notLarge same)]

/-- A natural number is read back digit by digit. -/
theorem number?_toDigits (short : (Nat.toDigits 10 n).length ≤ Integer.digitLimit)
    (stops : NumberEnds rest) :
    number? false (Nat.toDigits 10 n ++ rest) = some (.int n, rest) := by
  have some_digits : ¬ ((Nat.toDigits 10 n).isEmpty = true ∨
      (1 < (Nat.toDigits 10 n).length ∧ (Nat.toDigits 10 n).head? = some '0')) := by
    rintro (empty | ⟨several, zero⟩)
    · exact Nat.toDigits_ne_nil (List.isEmpty_iff.mp empty)
    · by_cases positive : 0 < n
      · exact head?_toDigits positive zero
      · rw [show n = 0 by omega, Nat.toDigits_zero] at several
        exact absurd several (by decide)
  have noPoint : ∀ more, rest ≠ '.' :: more := by
    rintro more rfl
    exact (stops '.' rfl).2.1 rfl
  unfold number?
  rw [takeWhile_toDigits n stops, dropWhile_toDigits n stops]
  dsimp only
  rw [if_neg some_digits, if_neg (by simp; omega)]
  split
  · next more => exact absurd rfl (noPoint more)
  · simp only [exponent?_of_numberEnds stops, natOf_toDigits, Option.bind_eq_bind, Option.bind_some,
      Bool.false_eq_true, ↓reduceIte, Option.pure_def]

/-- A natural number is written with its digits. -/
theorem toList_natural (n : Nat) : (toString (n : Int)).toList = Nat.toDigits 10 n := by
  change (toString n).toList = _
  rw [Nat.toString_eq_ofList_toDigits, String.toList_ofList]

/-! ## Blanks -/

private theorem skipSpace_cons (blank : isSpace c = true) (rest : List Char) :
    skipSpace (c :: rest) = skipSpace rest := List.dropWhile_cons_of_pos blank

private theorem skipSpace_of_visible (visible : isSpace c = false) (rest : List Char) :
    skipSpace (c :: rest) = c :: rest := by
  unfold skipSpace
  rw [List.dropWhile_cons_of_neg (by rw [visible]; exact Bool.false_ne_true)]

/-- The line end and the indentation in front of a line are skipped. -/
theorem skipSpace_newline (level : Nat) (visible : isSpace c = false) (rest : List Char) :
    skipSpace ((newline level).toList ++ c :: rest) = c :: rest := by
  unfold newline
  rw [String.toList_append, String.toList_ofList, String.toList_ofList]
  change skipSpace ('\n' :: (List.replicate (2 * level) ' ' ++ c :: rest)) = _
  rw [skipSpace_cons rfl]
  induction 2 * level with
  | zero => exact skipSpace_of_visible visible rest
  | succ n ih =>
    rw [List.replicate_succ, List.cons_append, skipSpace_cons rfl]
    exact ih

/-! ## Lists and objects -/

/-- The text of an item behind a first one. -/
private def nextItem (level : Nat) (v : Value) : List Char :=
  ',' :: ((newline level).toList ++ (printAt level v).toList)

/-- The text of a member. -/
private def memberText (level : Nat) (m : String × Value) : List Char :=
  (quote m.1).toList ++ (':' :: ' ' :: (printAt level m.2).toList)

/-- The text of a member behind a first one. -/
private def nextMember (level : Nat) (m : String × Value) : List Char :=
  ',' :: ((newline level).toList ++ memberText level m)

private theorem toList_printItems (level : Nat) (w : Value) (items : List Value) :
    (String.intercalate "," (printItems level (w :: items))).toList =
      (newline level).toList ++ ((printAt level w).toList ++ items.flatMap (nextItem level)) := by
  induction items generalizing w with
  | nil =>
    rw [printItems, printItems, String.intercalate_singleton, String.toList_append,
      List.flatMap_nil, List.append_nil]
  | cons v items ih =>
    have tail := ih v
    rw [printItems] at tail
    rw [printItems, printItems, String.intercalate_cons_cons, String.toList_append,
      String.toList_append, tail, String.toList_append, List.flatMap_cons]
    simp only [nextItem, List.append_assoc, List.cons_append]
    rfl

/-- The members of an object as entries of a map. -/
private def entries (members : List (String × Value)) : List (Value × Value) :=
  members.map fun (name, v) => (.text name, v)

private theorem toList_printMembers (level : Nat) (m : String × Value)
    (members : List (String × Value)) :
    (String.intercalate "," (printMembers level (entries (m :: members)))).toList =
      (newline level).toList ++ (memberText level m ++ members.flatMap (nextMember level)) := by
  induction members generalizing m with
  | nil =>
    simp only [entries, List.map_cons, List.map_nil, printMembers, String.intercalate_singleton,
      String.toList_append, List.flatMap_nil, List.append_nil, memberText, List.append_assoc,
      Value.display]
    rfl
  | cons next members ih =>
    have tail := ih next
    simp only [entries, List.map_cons, printMembers] at tail
    simp only [entries, List.map_cons, printMembers, String.intercalate_cons_cons,
      String.toList_append, List.flatMap_cons] at tail ⊢
    rw [tail]
    simp only [nextMember, memberText, List.append_assoc, List.cons_append, Value.display]
    rfl

/-- The text of a list that holds something. -/
theorem toList_list (level : Nat) (w : Value) (items : List Value) :
    (printAt level (.list (w :: items))).toList =
      '[' :: ((newline (level + 1)).toList ++ ((printAt (level + 1) w).toList ++
        (items.flatMap (nextItem (level + 1)) ++ ((newline level).toList ++ [']'])))) := by
  rw [printAt]
  · simp only [String.toList_append, toList_printItems, List.append_assoc]
    rfl
  · exact List.cons_ne_nil w items

/-- The text of an object that holds something. -/
theorem toList_object (level : Nat) (m : String × Value) (members : List (String × Value)) :
    (printAt level (.object (m :: members))).toList =
      '\x7b' :: ((newline (level + 1)).toList ++ (memberText (level + 1) m ++
        (members.flatMap (nextMember (level + 1)) ++ ((newline level).toList ++ ['\x7d'])))) := by
  change (printAt level (.map (entries (m :: members)))).toList = _
  rw [printAt]
  · simp only [String.toList_append, toList_printMembers, List.append_assoc]
    rfl
  · exact List.cons_ne_nil _ _

theorem toList_empty (level : Nat) :
    (printAt level (.object [])).toList = ['\x7b', '\x7d'] := by
  change (printAt level (.map [])).toList = _
  rw [printAt]
  rfl

/-! ## Values -/

/-- A value of nulls, natural numbers, texts, lists and objects that can be read: its numbers have
no more digits than are read, and at most `n` levels of it hold something. -/
inductive ReadableValue : Nat → Value → Prop where
  | null {n : Nat} : ReadableValue n .null
  | natural {n k : Nat} (short : (Nat.toDigits 10 k).length ≤ Integer.digitLimit) :
    ReadableValue n (.int k)
  | text {n : Nat} {s : String} : ReadableValue n (.text s)
  | list {n : Nat} {items : List Value} (each : ∀ v ∈ items, ReadableValue n v) :
    ReadableValue (n + 1) (.list items)
  | object {n : Nat} {members : List (String × Value)} (each : ∀ m ∈ members, ReadableValue n m.2) :
    ReadableValue (n + 1) (.object members)

private theorem isSpace_of_isDigit (digit : c.isDigit = true) : isSpace c = false := by
  cases blank : isSpace c with
  | false => rfl
  | true =>
    simp only [isSpace, Bool.or_eq_true, beq_iff_eq] at blank
    rcases blank with ((rfl | rfl) | rfl) | rfl <;> exact absurd digit (by decide)

/-- A printed value starts with a visible character that closes nothing. -/
theorem printAt_opens (plain : ReadableValue n v) (level : Nat) :
    ∃ c cs, (printAt level v).toList = c :: cs ∧ isSpace c = false ∧ c ≠ ']' ∧ c ≠ '\x7d' := by
  cases plain with
  | null => exact ⟨'n', ['u', 'l', 'l'], by rw [printAt]; rfl, by decide⟩
  | @natural _ k short =>
    obtain ⟨c, cs, digits⟩ :=
      List.exists_cons_of_ne_nil (Nat.toDigits_ne_nil (n := k) (b := 10))
    have digit : c.isDigit = true :=
      isDigit_of_mem_toDigits (n := k) (by rw [digits]; exact List.mem_cons_self)
    refine ⟨c, cs, ?_, isSpace_of_isDigit digit, ?_, ?_⟩
    · rw [printAt, toList_natural, digits]
    · rintro rfl
      exact absurd digit (by decide)
    · rintro rfl
      exact absurd digit (by decide)
  | text => exact ⟨'"', _, by rw [printAt, toList_quote], by decide⟩
  | @list _ items _ =>
    cases items with
    | nil => exact ⟨'[', [']'], by rw [printAt]; rfl, by decide⟩
    | cons w items => exact ⟨'[', _, toList_list level w items, by decide⟩
  | @object _ members _ =>
    cases members with
    | nil => exact ⟨'\x7b', ['\x7d'], toList_empty level, by decide⟩
    | cons m members => exact ⟨'\x7b', _, toList_object level m members, by decide⟩

/-- The printed value is read back from any text that starts with it. -/
private def ReadsBack (level depth : Nat) (v : Value) : Prop :=
  ∀ fuel rest, (printAt level v).toList.length < fuel → NumberEnds rest →
    value? fuel depth ((printAt level v).toList ++ rest) = some (v, rest)

private theorem numberEnds_of_ne (digit : c.isDigit = false) (point : c ≠ '.') (small : c ≠ 'e')
    (large : c ≠ 'E') (rest : List Char) : NumberEnds (c :: rest) := by
  intro d first
  cases Option.mem_some.mp first
  exact ⟨digit, point, small, large⟩

private theorem numberEnds_newline (level : Nat) (rest : List Char) :
    NumberEnds ((newline level).toList ++ rest) := by
  unfold newline
  rw [String.toList_append]
  exact numberEnds_of_ne rfl (by decide) (by decide) (by decide) _

private theorem numberEnds_comma (rest : List Char) : NumberEnds (',' :: rest) :=
  numberEnds_of_ne rfl (by decide) (by decide) (by decide) _

/-- A printed value is skipped to over the blanks of its line. -/
private theorem skipSpace_newline_printAt (plain : ReadableValue n v) (outer level : Nat)
    (rest : List Char) :
    skipSpace ((newline outer).toList ++ ((printAt level v).toList ++ rest)) =
      (printAt level v).toList ++ rest := by
  obtain ⟨c, cs, same, visible, -, -⟩ := printAt_opens plain level
  rw [same, List.cons_append, skipSpace_newline outer visible]

/-- The items of a list are read up to its bracket. -/
private theorem items?_printed {level depth : Nat} {w : Value} {items : List Value}
    (plain : ∀ v ∈ w :: items, ReadableValue n v) (each : ∀ v ∈ w :: items, ReadsBack level depth v)
    (outer fuel : Nat) (rest : List Char)
    (large : ((printAt level w).toList ++ items.flatMap (nextItem level)).length + 1 < fuel) :
    items? fuel depth ((printAt level w).toList ++ (items.flatMap (nextItem level) ++
      ((newline outer).toList ++ ']' :: rest))) = some (w :: items, rest) := by
  induction items generalizing w fuel with
  | nil =>
    cases fuel with
    | zero => omega
    | succ fuel =>
      have first := each w List.mem_cons_self fuel ((newline outer).toList ++ ']' :: rest)
        (by simp only [List.flatMap_nil, List.append_nil] at large; omega) (numberEnds_newline _ _)
      rw [items?, List.flatMap_nil, List.nil_append, first]
      simp only [Option.bind_eq_bind, Option.bind_some]
      rw [skipSpace_newline outer rfl]
      rfl
  | cons v items ih =>
    cases fuel with
    | zero => omega
    | succ fuel =>
      rw [List.flatMap_cons, nextItem] at large
      simp only [List.length_append, List.length_cons] at large
      have first := each w List.mem_cons_self fuel
        ((v :: items).flatMap (nextItem level) ++ ((newline outer).toList ++ ']' :: rest))
        (by omega) (numberEnds_comma _)
      have others := ih (fun u member => plain u (List.mem_cons_of_mem _ member))
        (fun u member => each u (List.mem_cons_of_mem _ member)) fuel
        (by rw [List.length_append]; omega)
      rw [items?, first]
      simp only [Option.bind_eq_bind, Option.bind_some]
      rw [List.flatMap_cons, nextItem, List.cons_append, List.cons_append,
        skipSpace_of_visible rfl]
      simp only [List.append_assoc]
      rw [skipSpace_newline_printAt (plain v (by simp)), others]
      rfl

/-- A quoted name is read up to its colon, and what follows it is skipped to. -/
private theorem memberText_append (level : Nat) (m : String × Value) (more : List Char) :
    memberText level m ++ more = '"' :: (m.1.toList.flatMap escapeChar ++ '"' :: ':' :: ' ' ::
      ((printAt level m.2).toList ++ more)) := by
  unfold memberText
  rw [toList_quote]
  simp only [List.append_assoc, List.cons_append, List.nil_append]

private theorem skipSpace_printAt (plain : ReadableValue n v) (level : Nat) (rest : List Char) :
    skipSpace (' ' :: ((printAt level v).toList ++ rest)) = (printAt level v).toList ++ rest := by
  obtain ⟨c, cs, same, visible, -, -⟩ := printAt_opens plain level
  rw [same, List.cons_append, skipSpace_cons rfl, skipSpace_of_visible visible]

private theorem skipSpace_newline_memberText (outer level : Nat) (m : String × Value)
    (rest : List Char) :
    skipSpace ((newline outer).toList ++ (memberText level m ++ rest)) =
      memberText level m ++ rest := by
  rw [memberText_append, skipSpace_newline outer rfl]

/-- The members of an object are read up to its brace. -/
private theorem members?_printed {level depth : Nat} {m : String × Value}
    {members : List (String × Value)} (plain : ∀ x ∈ m :: members, ReadableValue n x.2)
    (each : ∀ x ∈ m :: members, ReadsBack level depth x.2) (outer fuel : Nat) (rest : List Char)
    (large : (memberText level m ++ members.flatMap (nextMember level)).length + 1 < fuel) :
    members? fuel depth (memberText level m ++ (members.flatMap (nextMember level) ++
      ((newline outer).toList ++ '\x7d' :: rest))) = some (entries (m :: members), rest) := by
  induction members generalizing m fuel with
  | nil =>
    cases fuel with
    | zero => omega
    | succ fuel =>
      simp only [memberText, List.flatMap_nil, List.append_nil, List.length_append,
        List.length_cons] at large
      have first := each m List.mem_cons_self fuel ((newline outer).toList ++ '\x7d' :: rest)
        (by omega) (numberEnds_newline _ _)
      rw [memberText_append, members?, string?_escaped]
      simp only [Option.bind_eq_bind, Option.bind_some]
      rw [skipSpace_of_visible rfl]
      simp only []
      rw [skipSpace_printAt (plain m List.mem_cons_self), List.flatMap_nil, List.nil_append, first]
      simp only [Option.bind_some]
      rw [skipSpace_newline outer rfl]
      rfl
  | cons next members ih =>
    cases fuel with
    | zero => omega
    | succ fuel =>
      rw [List.flatMap_cons, nextMember] at large
      have first := each m List.mem_cons_self fuel
        ((next :: members).flatMap (nextMember level) ++ ((newline outer).toList ++ '\x7d' :: rest))
        (by
          rw [memberText] at large
          simp only [List.length_append, List.length_cons] at large
          omega)
        (numberEnds_comma _)
      have others := ih (fun u member => plain u (List.mem_cons_of_mem _ member))
        (fun u member => each u (List.mem_cons_of_mem _ member)) fuel
        (by
          simp only [List.length_append, List.length_cons] at large ⊢
          omega)
      rw [memberText_append, members?, string?_escaped]
      simp only [Option.bind_eq_bind, Option.bind_some]
      rw [skipSpace_of_visible rfl]
      simp only []
      rw [skipSpace_printAt (plain m List.mem_cons_self), first]
      simp only [Option.bind_some]
      rw [List.flatMap_cons, nextMember, List.cons_append, List.cons_append,
        skipSpace_of_visible rfl]
      simp only [List.append_assoc]
      rw [skipSpace_newline_memberText, others]
      rfl

private theorem ne_of_isDigit {d : Char} (digit : c.isDigit = true) (other : d.isDigit = false) :
    c ≠ d := by
  rintro rfl
  rw [digit] at other
  cases other

/-- What starts with a digit is a number. -/
private theorem value?_digit (digit : c.isDigit = true) (fuel depth : Nat) (rest : List Char) :
    value? (fuel + 1) depth (c :: rest) = number? false (c :: rest) := by
  have ne {d : Char} (other : d.isDigit = false) : c ≠ d := ne_of_isDigit digit other
  rw [value?.eq_def]
  simp only []
  split
  · next quote => exact absurd (List.cons.inj quote).1 (ne rfl)
  · next bracket => exact absurd (List.cons.inj bracket).1 (ne rfl)
  · next first more same =>
    obtain ⟨rfl, rfl⟩ := List.cons.inj same
    rw [if_neg (ne rfl)]
    unfold scalar?
    split <;> first
      | rfl
      | next same => exact absurd (List.cons.inj same).1 (ne rfl)
  · next none => cases none

/-- A natural number with few digits is read back from its text. -/
private theorem readsBack_natural {k : Nat}
    (short : (Nat.toDigits 10 k).length ≤ Integer.digitLimit) (level depth : Nat) :
    ReadsBack level depth (.int k) := by
  intro fuel rest large stops
  cases fuel with
  | zero => omega
  | succ fuel =>
    have number := number?_toDigits short stops
    obtain ⟨c, cs, digits⟩ := List.exists_cons_of_ne_nil (Nat.toDigits_ne_nil (n := k) (b := 10))
    have digit : c.isDigit = true :=
      isDigit_of_mem_toDigits (n := k) (by rw [digits]; exact List.mem_cons_self)
    rw [printAt, toList_natural]
    rw [digits] at number ⊢
    rw [List.cons_append, value?_digit digit]
    exact number

/-- A list that holds something is read back if its items are. -/
private theorem readsBack_list {level depth : Nat} {w : Value} {items : List Value}
    (plain : ∀ v ∈ w :: items, ReadableValue n v)
    (each : ∀ v ∈ w :: items, ReadsBack (level + 1) depth v) :
    ReadsBack level (depth + 1) (.list (w :: items)) := by
  intro fuel rest large stops
  cases fuel with
  | zero => omega
  | succ fuel =>
    obtain ⟨c, cs, same, -, notBracket, -⟩ := printAt_opens (plain w List.mem_cons_self) (level + 1)
    have inner := items?_printed plain each level fuel rest (by
      rw [toList_list] at large
      simp only [List.length_append, List.length_cons] at large ⊢
      omega)
    rw [toList_list, List.cons_append, value?]
    simp only [List.append_assoc, List.singleton_append]
    rw [skipSpace_newline_printAt (plain w List.mem_cons_self)]
    rw [same, List.cons_append] at inner ⊢
    split
    · next more closed => exact absurd (List.cons.inj closed).1 notBracket
    · rw [if_neg (Nat.succ_ne_zero depth), Nat.add_sub_cancel, inner]
      rfl

/-- An object that holds something is read back if its members are. -/
private theorem readsBack_object {level depth : Nat} {m : String × Value}
    {members : List (String × Value)} (plain : ∀ x ∈ m :: members, ReadableValue n x.2)
    (each : ∀ x ∈ m :: members, ReadsBack (level + 1) depth x.2) :
    ReadsBack level (depth + 1) (.object (m :: members)) := by
  intro fuel rest large stops
  cases fuel with
  | zero => omega
  | succ fuel =>
    have inner := members?_printed plain each level fuel rest (by
      rw [toList_object] at large
      simp only [List.length_append, List.length_cons] at large ⊢
      omega)
    rw [toList_object, List.cons_append, value?]
    · simp only [List.append_assoc, List.singleton_append, ↓reduceIte]
      rw [skipSpace_newline_memberText]
      rw [memberText_append] at inner ⊢
      split
      · next more closed => exact absurd (List.cons.inj closed).1 (by decide)
      · rw [if_neg (Nat.succ_ne_zero depth), Nat.add_sub_cancel, inner]
        rfl
    · decide
    · decide

/-- A plain value is read back from its text. -/
theorem value?_printAt (plain : ReadableValue n v) (level depth : Nat) (deep : n ≤ depth) :
    ReadsBack level depth v := by
  induction plain generalizing level depth with
  | null =>
    intro fuel rest large stops
    cases fuel with
    | zero => omega
    | succ fuel =>
      rw [printAt]
      rfl
  | natural short => exact readsBack_natural short level depth
  | text =>
    intro fuel rest large stops
    cases fuel with
    | zero => omega
    | succ fuel =>
      rw [printAt, toList_quote, List.cons_append, value?]
      simp only [List.append_assoc, List.singleton_append]
      exact string?_escaped _ rest
  | @list n items each ih =>
    -- a list or an object takes one level, so something is left of the depth for what it holds
    obtain ⟨depth, rfl⟩ := Nat.exists_eq_succ_of_ne_zero (show depth ≠ 0 by omega)
    cases items with
    | nil =>
      intro fuel rest large stops
      cases fuel with
      | zero => omega
      | succ fuel =>
        rw [printAt]
        rfl
    | cons w items =>
      exact readsBack_list each fun v member => ih v member (level + 1) depth (by omega)
  | @object n members each ih =>
    obtain ⟨depth, rfl⟩ := Nat.exists_eq_succ_of_ne_zero (show depth ≠ 0 by omega)
    cases members with
    | nil =>
      intro fuel rest large stops
      cases fuel with
      | zero => omega
      | succ fuel =>
        rw [toList_empty]
        rfl
    | cons m members =>
      exact readsBack_object each fun x member => ih x member (level + 1) depth (by omega)

/-- Plain values hold no broken texts. -/
theorem wellFormed_of_readable (plain : ReadableValue n v) {fuel : Nat} (deep : n ≤ fuel) :
    wellFormedFuel fuel v = true := by
  induction plain generalizing fuel with
  | null => cases fuel <;> rfl
  | natural short => cases fuel <;> rfl
  | text => cases fuel <;> rfl
  | list each ih =>
    cases fuel with
    | zero => omega
    | succ fuel =>
      rw [wellFormedFuel, List.all_eq_true]
      intro v member
      exact ih v member (by omega)
  | object each ih =>
    cases fuel with
    | zero => omega
    | succ fuel =>
      unfold Value.object
      rw [wellFormedFuel, List.all_eq_true]
      intro pair member
      obtain ⟨m, from', rfl⟩ := List.mem_map.mp member
      simp only [Bool.and_eq_true]
      refine ⟨?_, ih m from' (by omega)⟩
      cases fuel <;> rfl

/-- A plain value that is not nested too deeply is read back from its JSON text. -/
theorem parse?_print (plain : ReadableValue n v) (deep : n ≤ depthLimit) :
    parse? (Utf8.encode (print v)) = some v := by
  have read := value?_printAt plain 0 depthLimit deep ((print v).toList.length + 1) []
    (Nat.lt_succ_self _) (by intro c none; cases none)
  obtain ⟨c, cs, same, visible, -, -⟩ := printAt_opens plain 0
  have unblanked : skipSpace (print v).toList = (print v).toList := by
    change skipSpace (printAt 0 v).toList = (printAt 0 v).toList
    rw [same, skipSpace_of_visible visible]
  have whole : parseChars? (print v).toList = some v := by
    unfold parseChars?
    rw [List.append_nil] at read
    rw [unblanked]
    change value? _ depthLimit (printAt 0 v).toList >>= _ = _
    rw [read]
    rfl
  unfold parse?
  rw [show Utf8.encode (print v) = Utf8.encodeChars (print v).toList from rfl,
    Utf8.decodeChars_encodeChars]
  simp only [Except.toOption, Option.bind_eq_bind, Option.bind_some, whole]
  rw [wellFormed_of_readable plain (Nat.le_succ_of_le deep), if_pos rfl]

end Json

end ModelForge
