import ModelForge.Proofs.Lists
import ModelForge.Text.Named

/-! # Named things

Of named things the names stay in the order in which they first came
(`ModelForge.Named.names_ofList`), and of things with one name the last one counts
(`ModelForge.Named.lookup_ofList`).
-/

namespace ModelForge

namespace Named

variable {α : Type} {name other : String} {items : List (String × α)}

theorem lookup_cons_eq (item : String × α) (items : List (String × α)) (other : String) :
    (item :: items).lookup other = if other = item.1 then some item.2 else items.lookup other := by
  rw [List.lookup_cons]
  by_cases same : other = item.1
  · rw [if_pos same, beq_iff_eq.mpr same]
  · rw [if_neg same, beq_eq_false_iff_ne.mpr same]

/-- What is found after a thing was put among others. -/
theorem lookup_put (name : String) (a : α) (items : List (String × α)) (other : String) :
    (put name a items).lookup other = if other = name then some a else items.lookup other := by
  induction items with
  | nil => exact lookup_cons_eq (name, a) [] other
  | cons first rest ih =>
    obtain ⟨n, b⟩ := first
    unfold put
    split
    · next same =>
      subst same
      rw [lookup_cons_eq, lookup_cons_eq]
      split <;> rfl
    · next differs =>
      rw [lookup_cons_eq, lookup_cons_eq, ih]
      by_cases same : other = n
      · rw [if_pos same, if_neg fun is => differs (same.symm.trans is), if_pos same]
      · rw [if_neg same, if_neg same]

/-- A thing under a new name comes last. -/
theorem put_of_new (new : name ∉ items.map Prod.fst) (a : α) :
    put name a items = items ++ [(name, a)] := by
  induction items with
  | nil => rfl
  | cons n items ih =>
    rw [List.map_cons, List.mem_cons, not_or] at new
    obtain ⟨other, b⟩ := n
    rw [put, if_neg (fun same => new.1 same.symm), ih new.2, List.cons_append]

/-- Things with distinct names stay as they are. -/
theorem ofList_of_nodup (distinct : (items.map Prod.fst).Nodup) :
    ofList items = items := by
  have behind (before after : List (String × α)) (nodup : ((before ++ after).map Prod.fst).Nodup) :
      after.foldl (fun acc n => put n.1 n.2 acc) before = before ++ after := by
    induction after generalizing before with
    | nil => exact (List.append_nil before).symm
    | cons n after ih =>
      have new : n.1 ∉ before.map Prod.fst := by
        rw [List.map_append, List.map_cons] at nodup
        exact fun member => (List.nodup_append.mp nodup).2.2 _ member _ List.mem_cons_self rfl
      change after.foldl _ (put n.1 n.2 before) = _
      rw [put_of_new new, ih _ (by rwa [List.append_assoc]), List.append_assoc]
      rfl
  exact behind [] items distinct

/-- A new name comes last, a known one stays where it is. -/
theorem names_put (name : String) (a : α) (items : List (String × α)) :
    (put name a items).map Prod.fst =
      if name ∈ items.map Prod.fst then items.map Prod.fst else items.map Prod.fst ++ [name] := by
  by_cases known : name ∈ items.map Prod.fst
  · rw [if_pos known]
    induction items with
    | nil => cases known
    | cons first rest ih =>
      obtain ⟨n, b⟩ := first
      unfold put
      split
      · rfl
      · next differs =>
        have behind := (List.mem_cons.mp known).resolve_left fun same => differs same.symm
        rw [List.map_cons, List.map_cons, ih behind]
  · rw [if_neg known, put_of_new known, List.map_append]
    rfl

/-- Of a list with one more thing that one is put last. -/
theorem ofList_append_singleton (items : List (String × α)) (item : String × α) :
    ofList (items ++ [item]) = put item.1 item.2 (ofList items) := by
  unfold ofList
  rw [List.foldl_append]
  rfl

/-- Of things with one name the last one counts. -/
theorem lookup_ofList (items : List (String × α)) (name : String) :
    (ofList items).lookup name = items.reverse.lookup name := by
  induction items using List.reverseRecOn with
  | nil => rfl
  | append_singleton items item ih =>
    rw [ofList_append_singleton, lookup_put, List.reverse_append, ih]
    exact (lookup_cons_eq item items.reverse name).symm

/-- Names stay in the order in which they first came. -/
theorem names_ofList (items : List (String × α)) :
    (ofList items).map Prod.fst = (items.map Prod.fst).eraseDups := by
  induction items using List.reverseRecOn with
  | nil => rfl
  | append_singleton items item ih =>
    rw [ofList_append_singleton, names_put, ih, List.map_append, List.map_singleton,
      eraseDups_concat]
    exact if_congr List.mem_eraseDups rfl rfl

/-- Putting a thing adds nothing else. -/
theorem mem_put {item : String × α} {name : String} {a : α}
    (member : item ∈ put name a items) : item = (name, a) ∨ item ∈ items := by
  induction items with
  | nil => exact .inl (List.mem_singleton.mp member)
  | cons first rest ih =>
    obtain ⟨n, b⟩ := first
    unfold put at member
    split at member
    · next same =>
      subst same
      rcases List.mem_cons.mp member with new | behind
      · exact .inl new
      · exact .inr (List.mem_cons_of_mem _ behind)
    · rcases List.mem_cons.mp member with same | behind
      · exact .inr (List.mem_cons.mpr (.inl same))
      · exact (ih behind).imp_right (List.mem_cons_of_mem _)

/-- Only what is put in is there. -/
theorem mem_of_mem_ofList {item : String × α} (member : item ∈ ofList items) : item ∈ items := by
  induction items using List.reverseRecOn with
  | nil => cases member
  | append_singleton items last ih =>
    rw [ofList_append_singleton] at member
    rcases mem_put member with same | earlier
    · exact List.mem_append_right _ (List.mem_singleton.mpr same)
    · exact List.mem_append_left _ (ih earlier)

/-- What is found is there. -/
theorem mem_of_lookup {a : α} (found : items.lookup name = some a) : (name, a) ∈ items := by
  obtain ⟨before, behind, same, -⟩ := List.lookup_eq_some_iff.mp found
  rw [same]
  exact List.mem_append_right before List.mem_cons_self

/-- What depends on its name alone is found by its name. -/
theorem lookup_ofList_map (f : String → α) {names : List String} (member : name ∈ names) :
    (ofList (names.map fun n => (n, f n))).lookup name = some (f name) := by
  -- the last thing with the name counts, so the induction starts from the end of the list
  rw [lookup_ofList, ← List.map_reverse]
  have behind : name ∈ names.reverse := List.mem_reverse.mpr member
  generalize names.reverse = names at behind
  induction names with
  | nil => cases behind
  | cons n names ih =>
    rw [List.map_cons, lookup_cons_eq]
    by_cases same : name = n
    · rw [if_pos same, same]
    · rw [if_neg same]
      exact ih ((List.mem_cons.mp behind).resolve_left same)

/-- Things under new names are found by them as long as the new names differ. -/
theorem lookup_map_of_injective {rename : String → String} (f : String → α) {names : List String}
    (differ : ∀ n ∈ names, rename name = rename n → name = n) :
    (names.map fun n => (rename n, f n)).lookup (rename name) =
      if name ∈ names then some (f name) else none := by
  induction names with
  | nil => rfl
  | cons n names ih =>
    obtain ⟨first, others⟩ := List.forall_mem_cons.mp differ
    rw [List.map_cons, lookup_cons_eq, ih others]
    by_cases same : name = n
    · rw [if_pos (congrArg rename same), if_pos (List.mem_cons.mpr (.inl same)), same]
    · rw [if_neg fun is => same (first is)]
      refine if_congr ?_ rfl rfl
      exact ⟨List.mem_cons_of_mem n, fun known => (List.mem_cons.mp known).resolve_left same⟩

end Named

end ModelForge
