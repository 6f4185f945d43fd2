import ModelForge.Proofs.Schema.Objects
import ModelForge.Proofs.Text.Packages
import ModelForge.Settings

/-! # Settings that ask for an external package

A dotted name is one or more words joined by single points (`ModelForge.isDottedName_iff`). Settings
whose members can all be read, and that ask for an external package, are accepted exactly if the
name of the package is a dotted name or a dotted name with one line end behind it
(`ModelForge.Settings.check_of_asks`).
-/

namespace ModelForge

variable {s name : List Char} {c : Char}

namespace Identifier

/-- An ASCII letter or an underscore. -/
def Letter (c : Char) : Prop := 'a' ≤ c ∧ c ≤ 'z' ∨ 'A' ≤ c ∧ c ≤ 'Z' ∨ c = '_'

/-- An ASCII digit. -/
def Digit (c : Char) : Prop := '0' ≤ c ∧ c ≤ '9'

/-- A letter or underscore, and then letters, underscores and digits. -/
def Word (s : List Char) : Prop :=
  ∃ first rest, s = first :: rest ∧ Letter first ∧ ∀ c ∈ rest, Letter c ∨ Digit c

theorem isStart_iff : isStart c = true ↔ Letter c := by
  unfold isStart Letter Char.isAlpha Char.isLower Char.isUpper
  simp only [Bool.or_eq_true, Bool.and_eq_true, decide_eq_true_eq, beq_iff_eq]
  exact or_assoc.trans or_left_comm

theorem isPart_iff : isPart c = true ↔ Letter c ∨ Digit c := by
  rw [← isStart_iff]
  unfold isPart isStart Digit Char.isAlphanum Char.isDigit
  simp only [Bool.or_eq_true, Bool.and_eq_true, decide_eq_true_eq]
  exact or_right_comm

/-- The check of an identifier decides the words of the grammar. -/
theorem wellFormed_iff : wellFormed s = true ↔ Word s := by
  cases s with
  | nil => exact ⟨fun no => (nomatch no), fun ⟨_, _, no, _⟩ => (nomatch no)⟩
  | cons first rest =>
    rw [wellFormed, Bool.and_eq_true, isStart_iff, List.all_eq_true]
    simp only [isPart_iff]
    constructor
    · exact fun word => ⟨first, rest, rfl, word⟩
    · rintro ⟨_, _, same, word⟩
      cases same
      exact word

/-- A word holds no character that is no part of one. -/
theorem Word.not_mem (word : Word s) (other : isPart c = false) : c ∉ s := fun member =>
  absurd (isPart_of_mem (wellFormed_iff.mpr word) member) (by rw [other]; exact Bool.false_ne_true)

end Identifier

open Identifier (Word)

/-- Words joined by single points. -/
inductive DottedName : List Char → Prop
  | word {w : List Char} (word : Word w) : DottedName w
  | more {w s : List Char} (word : Word w) (rest : DottedName s) : DottedName (w ++ '.' :: s)

/-- Words joined by dots are a dotted name. -/
theorem dottedName_joinWith {words : List (List Char)} (some_word : words ≠ [])
    (each : ∀ w ∈ words, Word w) : DottedName (Segments.joinWith ['.'] words) := by
  induction words with
  | nil => exact absurd rfl some_word
  | cons first rest ih =>
    obtain ⟨word, others⟩ := List.forall_mem_cons.mp each
    cases rest with
    | nil => exact .word word
    | cons next rest =>
      rw [Segments.joinWith, List.append_assoc, List.singleton_append]
      exact .more word (ih (List.cons_ne_nil _ _) others)

/-- The check accepts exactly the words joined by single points. -/
theorem isDottedName_iff : isDottedName s = true ↔ DottedName s := by
  constructor
  · intro accepted
    rw [← Segments.joinWith_splitOn '.' s]
    refine dottedName_joinWith (Segments.splitOn_ne_nil '.' s) fun w member => ?_
    exact Identifier.wellFormed_iff.mp (List.all_eq_true.mp accepted w member)
  · intro dotted
    have single {w : List Char} (word : Word w) : Segments.splitOn '.' w = [w] :=
      Segments.splitOn_of_not_mem (word.not_mem (by decide))
    induction dotted with
    | word word =>
      rw [isDottedName, single word, List.all_cons, Identifier.wellFormed_iff.mpr word]
      rfl
    | more word _ ih =>
      rw [isDottedName, Segments.splitOn_append, single word, List.singleton_append,
        List.all_cons, Identifier.wellFormed_iff.mpr word]
      exact ih

/-- No dotted name ends in a line end. -/
theorem not_dottedName_line : ¬DottedName (name ++ ['\n']) := by
  intro dotted
  have accepted := isDottedName_iff.mpr dotted
  obtain ⟨seg, inside, line⟩ := Segments.exists_mem_splitOn
    (List.mem_append_right name List.mem_cons_self) (by decide : '\n' ≠ '.')
  have formed := List.all_eq_true.mp accepted seg inside
  exact absurd (Identifier.isPart_of_mem formed line) (by decide)

namespace Settings

variable {entries : List (Value × Value)} {t : Settings} {package : String}

/-- A package is accepted if it is a dotted name or one with a line end behind it. -/
theorem isExternalPackage_iff : isExternalPackage package = true ↔
    DottedName package.toList ∨ ∃ name, DottedName name ∧ package.toList = name ++ ['\n'] := by
  unfold isExternalPackage
  dsimp only
  rw [isDottedName_iff]
  split
  · next line =>
    obtain ⟨name, same⟩ := List.getLast?_eq_some_iff.mp line
    rw [same, List.dropLast_concat]
    constructor
    · exact fun dotted => .inr ⟨name, dotted, rfl⟩
    · rintro (no | ⟨other, dotted, again⟩)
      · exact absurd no not_dottedName_line
      · rwa [(List.append_inj' again rfl).1]
  · next line =>
    refine ⟨.inl, fun either => either.resolve_right ?_⟩
    rintro ⟨name, -, same⟩
    exact line (by rw [same, List.getLast?_concat])

/-- A document can be read member by member, as settings that ask for an external package. -/
structure AsksForPackage (entries : List (Value × Value)) (t : Settings) (package : String) :
    Prop where
  members : Schema.closed memberNames entries (ofEntries entries) = .valid t
  asked : t.addExternal = true
  package : t.externalPackage = package

/-- What is said of a package that is refused. -/
def refusal (package : String) : Violation.Kind :=
  .rule ("external_api_package must be a dotted package name when " ++
    "add_external_api is set, got '" ++ package ++ "'")

/-- Entries that ask for a package are accepted exactly if its name is, and refused for it
otherwise. -/
theorem AsksForPackage.check_eq (asks : AsksForPackage entries t package) : check (.map entries) =
    if isExternalPackage package = true then .valid t else .violation (refusal package) := by
  have read : check (.map entries) = t.checkExternal := by
    change (Schema.closed memberNames entries (ofEntries entries)).andThen checkExternal = _
    rw [asks.members]
    rfl
  rw [read, checkExternal, asks.asked, asks.package]
  cases isExternalPackage package <;> rfl

/-- Settings that can be read member by member and ask for an external package are accepted, as they
were read, exactly if the name of the package is a dotted name or a dotted name with one line end
behind it; the latter is no dotted name. All others are refused, with the name that was given. -/
theorem check_of_asks (asks : AsksForPackage entries t package) :
    (check (.map entries) = .valid t ↔ DottedName package.toList ∨
      ∃ name, DottedName name ∧ package.toList = name ++ ['\n']) ∧
    (check (.map entries) = .valid t ∨ check (.map entries) = .violation (refusal package)) ∧
    ∀ name, ¬DottedName (name ++ ['\n']) := by
  rw [← isExternalPackage_iff, asks.check_eq]
  refine ⟨?_, ?_, fun _ => not_dottedName_line⟩
  · cases isExternalPackage package with
    | true => exact ⟨fun _ => rfl, fun _ => rfl⟩
    | false => exact ⟨fun no => (nomatch no), fun no => (nomatch no)⟩
  · cases isExternalPackage package with
    | true => exact .inl rfl
    | false => exact .inr rfl

namespace Sample

/-- A document that asks for an external package. -/
def external (package : String) : List (String × Value) :=
  [("classes_directory", .text "out/classes"), ("target_directory", .text "out"),
    ("add_external_api", .bool true), ("external_api_package", .text package)]

/-- The settings of that document. -/
def externalSettings (package : String) : Settings where
  repositories := []
  excluded := []
  extra := []
  type := .modular
  skip := false
  addExternal := true
  externalPackage := package
  metadata := true
  singleDirectory := false
  sources := false
  test := false
  preventCompilation := false
  classes := .ofString "out/classes"
  target := .ofString "out"
  cache := none

/-- Settings that ask for a package in the external layout. -/
theorem asksForPackage_external (package : String) :
    AsksForPackage (Schema.entriesOf (external package)) (externalSettings package) package := by
  refine ⟨?_, rfl, rfl⟩
  rw [Schema.closed_object (by simp [external, memberNames])]
  rfl

end Sample

/-- The name of a package may end in a line end, which no dotted name does. -/
theorem check_with_line : AsksForPackage (Schema.entriesOf (Sample.external "a\n"))
      (Sample.externalSettings "a\n") "a\n" ∧
    check (.object (Sample.external "a\n")) = .valid (Sample.externalSettings "a\n") ∧
    ¬DottedName "a\n".toList := by
  have asks := Sample.asksForPackage_external "a\n"
  obtain ⟨accepted, -, line⟩ := check_of_asks asks
  refine ⟨asks, accepted.mpr (.inr ⟨['a'], isDottedName_iff.mp (by decide), by decide⟩), ?_⟩
  exact line ['a']

end Settings

end ModelForge
