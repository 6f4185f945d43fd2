import Mathlib.Data.List.Forall2
import Mathlib.Data.List.Induction

/-! # Lists

What is used of lists beside the library: lists without their repetitions
(`ModelForge.nodup_eraseDups`), lists that are put together of parts and taken apart again
(`ModelForge.append_cons_inj`, `ModelForge.getElem?_append_ne`), and images of two lists under
functions that agree on them (`ModelForge.map_eq_map_of_imp`,
`ModelForge.flatMap_eq_of_forall₂`).
-/

namespace ModelForge

variable {α β γ : Type}

/-! ## Repetitions -/

section

variable [BEq α] [LawfulBEq α] [BEq β] [LawfulBEq β]

/-- An item at the end counts unless it has come before. -/
theorem eraseDups_concat (items : List α) (a : α) [Decidable (a ∈ items)] :
    (items ++ [a]).eraseDups =
      if a ∈ items then items.eraseDups else items.eraseDups ++ [a] := by
  rw [List.eraseDups_append]
  split
  · next known =>
    have gone : [a].removeAll items = [] := by simp [List.removeAll, known]
    rw [gone, List.eraseDups_nil, List.append_nil]
  · next new =>
    have kept : [a].removeAll items = [a] := by simp [List.removeAll, new]
    rw [kept]
    rfl

/-- Without repetitions every item stands once. -/
theorem nodup_eraseDups (items : List α) : items.eraseDups.Nodup := by
  classical
  induction items using List.reverseRecOn with
  | nil => exact List.nodup_nil
  | append_singleton items a ih =>
    rw [eraseDups_concat]
    split
    · exact ih
    · next new =>
      refine List.nodup_append.mpr ⟨ih, List.pairwise_singleton _ a, ?_⟩
      intro b earlier c last same
      rw [same, List.mem_singleton.mp last, List.mem_eraseDups] at earlier
      exact new earlier

/-- Renaming keeps repetitions as they are as long as the new names differ. -/
theorem eraseDups_map {f : α → β} (injective : Function.Injective f) (items : List α) :
    (items.map f).eraseDups = items.eraseDups.map f := by
  classical
  induction items using List.reverseRecOn with
  | nil => rfl
  | append_singleton items a ih =>
    have known : f a ∈ items.map f ↔ a ∈ items := by
      refine ⟨fun member => ?_, List.mem_map_of_mem⟩
      obtain ⟨b, inside, same⟩ := List.mem_map.mp member
      exact injective same ▸ inside
    rw [List.map_append, List.map_singleton, eraseDups_concat, eraseDups_concat, ih, apply_ite
      (List.map f), List.map_append]
    exact if_congr known rfl rfl

end

/-! ## Fronts -/

/-- The first place of a separator that no front holds cuts a list in one way only. -/
theorem append_cons_inj {a : α} {x y z w : List α} (free : a ∉ x) (free' : a ∉ y) :
    x ++ a :: z = y ++ a :: w ↔ x = y ∧ z = w := by
  induction x generalizing y with
  | nil =>
    cases y with
    | nil => simp
    | cons b y =>
      have differs : a ≠ b := fun same => free' (same ▸ List.mem_cons_self)
      simp [differs]
  | cons b x ih =>
    have differs : b ≠ a := fun same => free (same ▸ List.mem_cons_self)
    cases y with
    | nil => simp [differs]
    | cons c y =>
      rw [List.cons_append, List.cons_append, List.cons.injEq, List.cons.injEq, and_assoc,
        ih (fun inside => free (List.mem_cons_of_mem b inside))
          fun inside => free' (List.mem_cons_of_mem c inside)]

/-- Where lists with fronts of one length differ, their fronts or what follows them differ. -/
theorem getElem?_append_ne {xs ys us vs : List α} {n : Nat}
    (same : xs.length = ys.length) (differs : (xs ++ us)[n]? ≠ (ys ++ vs)[n]?) :
    xs[n]? ≠ ys[n]? ∨ ∃ m, n = xs.length + m ∧ us[m]? ≠ vs[m]? := by
  by_cases inside : n < xs.length
  · rw [List.getElem?_append_left inside, List.getElem?_append_left (same ▸ inside)] at differs
    exact .inl differs
  · have behind : xs.length ≤ n := Nat.le_of_not_lt inside
    rw [List.getElem?_append_right behind, List.getElem?_append_right (same ▸ behind),
      ← same] at differs
    exact .inr ⟨n - xs.length, (Nat.add_sub_cancel' behind).symm, differs⟩

/-! ## Images -/

/-- Lists with the same images under one function have the same images under another one that tells
no more apart. -/
theorem map_eq_map_of_imp {f : α → β} {g : α → γ} {as bs : List α}
    (each : ∀ a ∈ as, ∀ b ∈ bs, f a = f b → g a = g b) (same : as.map f = bs.map f) :
    as.map g = bs.map g := by
  induction as generalizing bs with
  | nil =>
    rw [List.map_eq_nil_iff.mp same.symm]
  | cons a as ih =>
    cases bs with
    | nil => cases same
    | cons b bs =>
      obtain ⟨head, tail⟩ := List.cons.inj same
      rw [List.map_cons, List.map_cons, each a List.mem_cons_self b List.mem_cons_self head,
        ih (fun a inside b behind => each a (List.mem_cons_of_mem _ inside) b
          (List.mem_cons_of_mem _ behind)) tail]

/-- Lists that are related item by item have the same images, put together, if related items do. -/
theorem flatMap_eq_of_forall₂ {related : α → α → Prop} {f h : α → List β}
    {as bs : List α} (pairs : List.Forall₂ related as bs)
    (each : ∀ a ∈ as, ∀ b ∈ bs, related a b → f a = h b) : as.flatMap f = bs.flatMap h := by
  induction pairs with
  | nil => rfl
  | @cons a b as bs first _ ih =>
    rw [List.flatMap_cons, List.flatMap_cons, each a List.mem_cons_self b List.mem_cons_self first,
      ih fun a inA b inB => each a (List.mem_cons_of_mem _ inA) b (List.mem_cons_of_mem _ inB)]

end ModelForge
