import ModelForge.Proofs.Text.Literals

/-! # What a module lists

A module names the paths of its elements in a tuple on a line of its own. `ModelForge.Code.listed`
reads the tuple from the text of a module, and finds the paths of the elements that the module was
made of (`ModelForge.Code.listed_renderModule`).
-/

namespace ModelForge

namespace Quoted

variable {c : Char} {s before after : List Char} {items : List String}

/-- A character that stands for itself between single quotes. -/
structure PlainChar (c : Char) : Prop where
  quote : c ≠ '\''
  backslash : c ≠ '\\'
  tab : c ≠ '\t'
  line : c ≠ '\n'
  feed : c ≠ '\r'
  printable : isPrintable c = true

/-- Plain characters are not escaped. -/
theorem escapeChar_of_plain (plain : PlainChar c) : escapeChar '\'' c = [c] := by
  unfold escapeChar
  rw [if_neg fun is => is.elim plain.quote plain.backslash, if_neg plain.tab, if_neg plain.line,
    if_neg plain.feed, if_pos plain.printable]

theorem flatMap_escapeChar (plain : ∀ c ∈ s, PlainChar c) : s.flatMap (escapeChar '\'') = s := by
  induction s with
  | nil => rfl
  | cons c rest ih =>
    obtain ⟨head, tail⟩ := List.forall_mem_cons.mp plain
    rw [List.flatMap_cons, escapeChar_of_plain head, ih tail]
    rfl

/-- A plain text stands between its quotes as it is. -/
theorem toList_quote_of_plain {item : String} (plain : ∀ c ∈ item.toList, PlainChar c) :
    (quote item).toList = '\'' :: item.toList ++ ['\''] := by
  have single : delimiter item.toList = '\'' := by
    have free : item.toList.contains '\'' = false := by
      rw [Bool.eq_false_iff, Ne, List.contains_iff_mem]
      exact fun member => (plain '\'' member).quote rfl
    unfold delimiter
    rw [free]
    rfl
  unfold quote quoteChars
  rw [String.toList_ofList, single]
  dsimp only
  rw [flatMap_escapeChar plain]

/-- Of pieces that alternate between what is outside and inside of quotes, those inside. -/
def inside : List (List Char) → List String
  | _ :: text :: rest => String.ofList text :: inside rest
  | _ => []

/-- The texts between single quotes, where nothing is escaped. -/
def texts (s : List Char) : List String := inside (Segments.splitOn '\'' s)

theorem texts_of_free (free : '\'' ∉ s) : texts s = [] := by
  unfold texts
  rw [Segments.splitOn_of_not_mem free]
  rfl

/-- A plain text is read where it is quoted. -/
theorem texts_append {item : String} (free : '\'' ∉ before) (plain : ∀ c ∈ item.toList, PlainChar c)
    (after : List Char) :
    texts (before ++ (quote item).toList ++ after) = item :: texts after := by
  have inner : '\'' ∉ item.toList := fun member => (plain '\'' member).quote rfl
  have shape : before ++ (quote item).toList ++ after =
      before ++ '\'' :: (item.toList ++ '\'' :: after) := by
    rw [toList_quote_of_plain plain]
    simp only [List.cons_append, List.append_assoc, List.nil_append]
  unfold texts
  rw [shape, Segments.splitOn_append, Segments.splitOn_append, Segments.splitOn_of_not_mem free,
    Segments.splitOn_of_not_mem inner]
  change String.ofList item.toList :: inside (Segments.splitOn '\'' after) = _
  rw [String.ofList_toList]

/-- The items of a list are read back, whatever brackets stand around it. -/
theorem texts_joined (some_item : items ≠ [])
    (plain : ∀ item ∈ items, ∀ c ∈ item.toList, PlainChar c) (free : '\'' ∉ before)
    (free' : '\'' ∉ after) :
    texts (before ++ (String.intercalate ", " (items.map quote)).toList ++ after) = items := by
  rw [Segments.toList_intercalate, List.map_map]
  induction items generalizing before with
  | nil => exact absurd rfl some_item
  | cons first rest ih =>
    obtain ⟨head, tail⟩ := List.forall_mem_cons.mp plain
    cases rest with
    | nil =>
      change texts (before ++ (quote first).toList ++ after) = _
      rw [texts_append free head, texts_of_free free']
    | cons next rest =>
      have comma : '\'' ∉ (", " : String).toList := by decide
      have others := ih (List.cons_ne_nil next rest) tail comma
      have shape : before ++ Segments.joinWith (", " : String).toList
            ((first :: next :: rest).map (String.toList ∘ quote)) ++ after =
          before ++ (quote first).toList ++ ((", " : String).toList ++
            Segments.joinWith (", " : String).toList
              ((next :: rest).map (String.toList ∘ quote)) ++ after) := by
        simp only [List.map_cons, Segments.joinWith, Function.comp_apply, List.append_assoc]
      rw [shape, texts_append free head, others]

/-- The items of a tuple are read back. -/
theorem texts_tuple (plain : ∀ item ∈ items, ∀ c ∈ item.toList, PlainChar c) :
    texts (tuple items).toList = items := by
  have opening : '\'' ∉ ("(" : String).toList := by decide
  match items with
  | [] => exact texts_of_free (by decide)
  | [item] =>
    have single := texts_joined (List.cons_ne_nil item []) plain opening
      (show '\'' ∉ (",)" : String).toList by decide)
    unfold tuple
    rw [String.toList_append, String.toList_append]
    rwa [List.map_singleton, String.intercalate_singleton] at single
  | first :: next :: rest =>
    have several := texts_joined (List.cons_ne_nil first (next :: rest)) plain opening
      (show '\'' ∉ (")" : String).toList by decide)
    unfold tuple
    rw [String.toList_append, String.toList_append]
    exact several

end Quoted

theorem Identifier.toNat_of_within {c : Char} {low high : UInt32}
    (within : (decide (c.val ≥ low) && decide (c.val ≤ high)) = true) :
    low.toNat ≤ c.toNat ∧ c.toNat ≤ high.toNat := by
  obtain ⟨above, below⟩ := (Bool.and_eq_true _ _).mp within
  exact ⟨UInt32.le_iff_toNat_le.mp (of_decide_eq_true above),
    UInt32.le_iff_toNat_le.mp (of_decide_eq_true below)⟩

/-- Parts of identifiers are plain characters. -/
theorem Identifier.plain_of_isPart {c : Char} (part : isPart c = true) : Quoted.PlainChar c := by
  have other {d : Char} (outside : isPart d = false) : c ≠ d := by
    rintro rfl
    rw [part] at outside
    cases outside
  refine ⟨other (by decide), other (by decide), other (by decide), other (by decide),
    other (by decide), ?_⟩
  have bounds : 0x20 ≤ c.toNat ∧ c.toNat < 0x7F := by
    rcases (Bool.or_eq_true _ _).mp part with word | underscore
    · rcases (Bool.or_eq_true _ _).mp word with letter | digit
      · rcases (Bool.or_eq_true _ _).mp letter with upper | lower
        · have between : 65 ≤ c.toNat ∧ c.toNat ≤ 90 :=
            toNat_of_within ((Bool.decide_and _ _).symm.trans upper)
          omega
        · have between : 97 ≤ c.toNat ∧ c.toNat ≤ 122 := toNat_of_within lower
          omega
      · have between : 48 ≤ c.toNat ∧ c.toNat ≤ 57 := toNat_of_within digit
        omega
    · rw [beq_iff_eq.mp underscore]
      decide
  unfold isPrintable
  rw [if_pos bounds.2]
  exact decide_eq_true bounds.1

/-- An element path is quoted as it is. -/
theorem plain_of_isElementPath {path : String} (formed : isElementPath path = true) :
    ∀ c ∈ path.toList, Quoted.PlainChar c := by
  have segments : ∀ seg ∈ Segments.splitOnPair ':' path.toList,
      Identifier.wellFormed seg = true := List.all_eq_true.mp formed
  intro c member
  rw [← Segments.joinWith_splitOnPair ':' path.toList] at member
  rcases Segments.mem_joinWith member with colon | ⟨seg, inside, behind⟩
  · have is : c = ':' := by simpa using colon
    subst is
    exact ⟨by decide, by decide, by decide, by decide, by decide, by decide⟩
  · exact Identifier.plain_of_isPart (Identifier.isPart_of_mem (segments seg inside) behind)

namespace Code

variable {origin : String} {es : List Element}

/-- What the line of the tuple starts with. -/
def listingStart : String := "__pure_elements__ = "

/-- The paths in the tuple of a module. -/
def listed (text : String) : List String :=
  match (Segments.splitOn '\n' text.toList).find? listingStart.toList.isPrefixOf with
  | some line => Quoted.texts (line.drop listingStart.length)
  | none => []

/-- The lines of a module are found in its text. -/
theorem splitOn_renderModule (origin : String) (es : List Element) :
    Segments.splitOn '\n' (renderModule origin es).toList =
      (moduleLines origin es).flatMap (fun line => Segments.splitOn '\n' line.toList) ++ [[]] := by
  have some_line : (moduleLines origin es).map String.toList ≠ [] := List.cons_ne_nil _ _
  have newline : ("\n" : String).toList = ['\n'] := rfl
  unfold renderModule
  rw [String.toList_append, Segments.toList_intercalate, newline, Segments.splitOn_append,
    Segments.splitOn_joinWith '\n' some_line, List.flatMap_map]
  rfl

/-- A module lists the elements that it was made of. -/
theorem listed_renderModule (free : '\n' ∉ origin.toList)
    (formed : ∀ e ∈ es, isElementPath e.path = true) :
    listed (renderModule origin es) = es.map Element.path := by
  have plain : ∀ item ∈ es.map Element.path, ∀ c ∈ item.toList, Quoted.PlainChar c := by
    intro item member
    obtain ⟨e, inside, rfl⟩ := List.mem_map.mp member
    exact plain_of_isElementPath (formed e inside)
  have title : '\n' ∉ ("\"\"\"Generated from " ++ origin ++ ". Do not edit.\"\"\"").toList :=
    not_mem_between (by decide) free (by decide)
  have tuple : '\n' ∉ (listingStart ++ Quoted.tuple (es.map Element.path)).toList := by
    rw [String.toList_append, List.mem_append]
    exact fun inside => inside.elim (by decide) (Quoted.line_not_mem_tuple _)
  have skip {line : String} (whole : '\n' ∉ line.toList)
      (other : listingStart.toList.isPrefixOf line.toList = false) (rest : List (List Char)) :
      (Segments.splitOn '\n' line.toList ++ rest).find? listingStart.toList.isPrefixOf =
        rest.find? listingStart.toList.isPrefixOf := by
    rw [Segments.splitOn_of_not_mem whole]
    exact List.find?_cons_of_neg (by rw [other]; exact Bool.false_ne_true)
  have found : listingStart.toList.isPrefixOf
      (listingStart ++ Quoted.tuple (es.map Element.path)).toList = true := by
    rw [String.toList_append, List.isPrefixOf_iff_prefix]
    exact List.prefix_append _ _
  unfold listed
  rw [splitOn_renderModule]
  unfold moduleLines headLines
  -- of the lines in front of the tuple only the title is not fixed
  simp only [List.cons_append, List.nil_append, List.flatMap_cons, List.append_assoc]
  rw [skip title (by rw [String.toList_append, String.toList_append]; rfl),
    skip (by decide) (by decide), skip (by decide) (by decide), skip (by decide) (by decide),
    skip (by decide) (by decide), skip (by decide) (by decide)]
  change (match (Segments.splitOn '\n'
    (listingStart ++ Quoted.tuple (es.map Element.path)).toList ++ _).find? _ with
    | some line => Quoted.texts (line.drop listingStart.length)
    | none => []) = _
  rw [Segments.splitOn_of_not_mem tuple, List.singleton_append, List.find?_cons_of_pos found]
  dsimp only
  rw [String.toList_append, ← String.length_toList, List.drop_left]
  exact Quoted.texts_tuple plain

end Code

end ModelForge
