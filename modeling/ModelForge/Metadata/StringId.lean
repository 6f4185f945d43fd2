import ModelForge.Failure

/-!
# String ids

Metadata refers to texts by one signed number. The text at index `i` of the classifier pool has the
id `-i - 1` and that of the general pool the id `i + 1`; zero is no id. The sign alone says which
pool is meant.
-/

namespace ModelForge

namespace StringId

/-- Refuses a negative index. -/
def checkIndex (index : Int) : Except IdFault Unit :=
  if index < 0 then .error (.negativeIndex index) else .ok ()

/-- The id of an index of the classifier pool. -/
def ofClassifierIndex (index : Int) : Except IdFault Int := do
  checkIndex index
  return -index - 1

/-- The index that an id of the classifier pool stands for. -/
def toClassifierIndex (id : Int) : Except IdFault Int :=
  if 0 ≤ id then .error (.notClassifier id) else .ok (-id - 1)

/-- The id of an index of the general pool. -/
def ofGeneralIndex (index : Int) : Except IdFault Int := do
  checkIndex index
  return index + 1

/-- The index that an id of the general pool stands for. -/
def toGeneralIndex (id : Int) : Except IdFault Int :=
  if id ≤ 0 then .error (.notGeneral id) else .ok (id - 1)

end StringId

/-- The two pools of texts of a unit, each without repetitions and in the order of first use. -/
structure StringPools where
  classifiers : List String
  strings : List String
  deriving DecidableEq, Repr

namespace StringPools

/-- Pools without texts. -/
def empty : StringPools := ⟨[], []⟩

/-- The index of a text in a pool, which is added if it is not there. -/
def intern (text : String) (pool : List String) : Nat × List String :=
  match pool.idxOf? text with
  | some i => (i, pool)
  | none => (pool.length, pool ++ [text])

/-- The id of a classifier, which is added if it is not there. -/
def classifierId (text : String) : StateM StringPools Int := do
  let pools ← get
  let (i, classifiers) := intern text pools.classifiers
  set { pools with classifiers := classifiers }
  return -(i : Int) - 1

/-- The id of a text, which is added if it is not there. -/
def stringId (text : String) : StateM StringPools Int := do
  let pools ← get
  let (i, strings) := intern text pools.strings
  set { pools with strings := strings }
  return (i : Int) + 1

/-- The classifier with an id. -/
def classifier (pools : StringPools) (id : Int) : Except IdFault String := do
  let i ← StringId.toClassifierIndex id
  match pools.classifiers[i.toNat]? with
  | some text => return text
  | none => throw (.unknownClassifier id)

/-- The text with an id. -/
def string (pools : StringPools) (id : Int) : Except IdFault String := do
  let i ← StringId.toGeneralIndex id
  match pools.strings[i.toNat]? with
  | some text => return text
  | none => throw (.unknownString id)

end StringPools

end ModelForge
