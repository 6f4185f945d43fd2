import ModelForge.Metadata.StringId

/-! # Pools that grow

Putting texts into the pools only adds to their ends, so an id that was given out once is resolved
to its text in every later state of the pools (`ModelForge.StringPools.string_stringId`,
`ModelForge.StringPools.classifier_classifierId`).
-/

namespace ModelForge

namespace StringPools

variable {text : String} {pool : List String} {pools earlier later last : StringPools}

/-- Later pools hold every text of the earlier ones at its index. -/
structure Extends (later earlier : StringPools) : Prop where
  classifiers : earlier.classifiers <+: later.classifiers
  strings : earlier.strings <+: later.strings

theorem Extends.refl (pools : StringPools) : pools.Extends pools :=
  ⟨List.prefix_refl _, List.prefix_refl _⟩

/-- What a pool extends in two steps it extends. -/
theorem Extends.trans (second : last.Extends later) (first : later.Extends earlier) :
    last.Extends earlier :=
  ⟨first.classifiers.trans second.classifiers, first.strings.trans second.strings⟩

/-- Interning leaves what is in a pool where it is. -/
theorem prefix_intern (text : String) (pool : List String) : pool <+: (intern text pool).2 := by
  unfold intern
  split
  · exact List.prefix_refl _
  · exact List.prefix_append _ _

/-- The index given to a text is that of the text. -/
theorem intern_getElem? (text : String) (pool : List String) :
    (intern text pool).2[(intern text pool).1]? = some text := by
  unfold intern
  split
  · next index found =>
    obtain ⟨bounded, same, -⟩ := List.idxOf?_eq_some_iff.mp found
    simp only [List.getElem?_eq_getElem bounded, Option.some.injEq]
    exact same
  · exact List.getElem?_concat_length

/-- What stands at a place still does when more comes behind it. -/
theorem getElem?_of_prefix {short long : List String} (grown : short <+: long) {i : Nat}
    (found : short[i]? = some text) : long[i]? = some text := by
  obtain ⟨bounded, rfl⟩ := List.getElem?_eq_some_iff.mp found
  exact List.prefix_iff_getElem?.mp grown i bounded

theorem run_stringId (text : String) (pools : StringPools) :
    (stringId text).run pools =
      (((intern text pools.strings).1 : Int) + 1,
        { pools with strings := (intern text pools.strings).2 }) := rfl

theorem run_classifierId (text : String) (pools : StringPools) :
    (classifierId text).run pools =
      (-((intern text pools.classifiers).1 : Int) - 1,
        { pools with classifiers := (intern text pools.classifiers).2 }) := rfl

/-- Interning a text leaves both pools as they are, up to what comes behind. -/
theorem extends_stringId (text : String) (pools : StringPools) :
    ((stringId text).run pools).2.Extends pools :=
  ⟨List.prefix_refl _, prefix_intern text pools.strings⟩

/-- Interning a classifier leaves both pools as they are, up to what comes behind. -/
theorem extends_classifierId (text : String) (pools : StringPools) :
    ((classifierId text).run pools).2.Extends pools :=
  ⟨prefix_intern text pools.classifiers, List.prefix_refl _⟩

/-- An id of the general pool is resolved to its text in all later pools. -/
theorem string_stringId (grown : later.Extends ((stringId text).run pools).2) :
    later.string ((stringId text).run pools).1 = .ok text := by
  have found : later.strings[(intern text pools.strings).1]? = some text :=
    getElem?_of_prefix grown.strings (intern_getElem? text pools.strings)
  have positive : ¬ ((intern text pools.strings).1 : Int) + 1 ≤ 0 := by omega
  rw [run_stringId]
  simp only [string, StringId.toGeneralIndex, positive, ↓reduceIte]
  dsimp only [bind, Except.bind]
  rw [show (((intern text pools.strings).1 : Int) + 1 - 1).toNat =
    (intern text pools.strings).1 by omega, found]
  rfl

/-- An id of the classifier pool is resolved to its text in all later pools. -/
theorem classifier_classifierId (grown : later.Extends ((classifierId text).run pools).2) :
    later.classifier ((classifierId text).run pools).1 = .ok text := by
  have found : later.classifiers[(intern text pools.classifiers).1]? = some text :=
    getElem?_of_prefix grown.classifiers (intern_getElem? text pools.classifiers)
  have negative : ¬ 0 ≤ -((intern text pools.classifiers).1 : Int) - 1 := by omega
  rw [run_classifierId]
  simp only [classifier, StringId.toClassifierIndex, negative, ↓reduceIte]
  dsimp only [bind, Except.bind]
  rw [show (-(-((intern text pools.classifiers).1 : Int) - 1) - 1).toNat =
    (intern text pools.classifiers).1 by omega, found]
  rfl

end StringPools

end ModelForge
