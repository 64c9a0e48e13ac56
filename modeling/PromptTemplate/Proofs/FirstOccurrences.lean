/-
# PromptTemplate.Proofs.FirstOccurrences -- lists up to repetition

Prompts are listed without repetition, each where it comes first.  What a list is
then worth is its list of first occurrences (`List.eraseDups`), and two lists that
have the same one (`SameFirsts`) are as good as each other.

The operations that enumerations are made of respect this: `SameFirsts.append`,
`SameFirsts.filter` and, above all, `SameFirsts.flatMap`.  So repetition may be
dropped early, inside a variant, or late, from the finished prompts: it makes no
difference to what comes out, nor to the order in which it comes out.
-/
import PromptTemplate.Text.Joining
import Mathlib.Data.List.Basic

set_option autoImplicit false
set_option linter.unusedSectionVars false

namespace PromptTemplate

variable {α β γ : Type} [BEq α] [LawfulBEq α] [BEq β] [LawfulBEq β] [BEq γ] [LawfulBEq γ]

/-! ## First occurrences -/

/-- A list is exhausted by taking its head and dropping the repetitions of it behind. -/
theorem eraseDups_induction {motive : List α → Prop} (nil : motive [])
    (cons : ∀ a rest, motive (rest.filter fun b => !b == a) → motive (a :: rest)) :
    ∀ xs, motive xs
  | [] => nil
  | a :: rest => cons a rest (eraseDups_induction nil cons (rest.filter fun b => !b == a))
termination_by xs => xs.length
decreasing_by exact Nat.lt_succ_of_le (List.length_filter_le _ _)

theorem nodup_eraseDups (xs : List α) : xs.eraseDups.Nodup := by
  induction xs using eraseDups_induction with
  | nil => exact List.nodup_nil
  | cons a rest ih =>
    rw [List.eraseDups_cons]
    refine List.nodup_cons.2 ⟨fun member => ?_, ih⟩
    simp at member

theorem eraseDups_of_nodup {xs : List α} (nodup : xs.Nodup) : xs.eraseDups = xs := by
  induction xs with
  | nil => rfl
  | cons a rest ih =>
    obtain ⟨absent, nodup⟩ := List.nodup_cons.1 nodup
    have kept : (rest.filter fun b => !b == a) = rest := by
      apply List.filter_eq_self.2
      intro b member
      have different : b ≠ a := fun same => absent (same ▸ member)
      simpa using different
    rw [List.eraseDups_cons, kept, ih nodup]

/-- Filtering before dropping repetitions is filtering after it. -/
theorem eraseDups_filter (p : α → Bool) (xs : List α) :
    (xs.filter p).eraseDups = xs.eraseDups.filter p := by
  induction xs using eraseDups_induction with
  | nil => rfl
  | cons a rest ih =>
    have commuted : (rest.filter p).filter (fun b => !b == a) =
        (rest.filter fun b => !b == a).filter p := by
      simp only [List.filter_filter, Bool.and_comm]
    rw [List.eraseDups_cons]
    by_cases kept : p a = true
    · rw [List.filter_cons_of_pos kept, List.filter_cons_of_pos kept, List.eraseDups_cons,
        commuted, ih]
    · -- the filter drops `a` itself, so dropping its repetitions first changes nothing
      have dropped : (rest.filter p).filter (fun b => !b == a) = rest.filter p := by
        apply List.filter_eq_self.2
        intro b member
        have different : b ≠ a := fun same => kept (same ▸ (List.mem_filter.1 member).2)
        simpa using different
      rw [List.filter_cons_of_neg kept, List.filter_cons_of_neg kept, ← ih, ← commuted, dropped]

/-- The values kept by the fold are those kept so far and the first occurrences of the
others. -/
theorem foldl_distinct (kept xs : List α) :
    xs.foldl (fun kept value => if kept.contains value then kept else kept ++ [value]) kept =
      kept ++ (xs.filter fun value => !kept.contains value).eraseDups := by
  induction xs generalizing kept with
  | nil => simp
  | cons a rest ih =>
    rw [List.foldl_cons, ih]
    by_cases seen : a ∈ kept
    · simp [seen]
    · have behind : (rest.filter fun value => !(kept ++ [a]).contains value) =
          (rest.filter fun value => !kept.contains value).filter fun b => !b == a := by
        rw [List.filter_filter]
        apply List.filter_congr
        intro b _
        by_cases same : b = a <;> simp [same]
      rw [if_neg (by simpa using seen), List.filter_cons_of_pos (by simpa using seen),
        List.eraseDups_cons, behind, List.append_assoc, List.singleton_append]

theorem distinct_eq_eraseDups (xs : List α) : distinct xs = xs.eraseDups := by
  simpa [distinct] using foldl_distinct [] xs

/-! ## The same first occurrences -/

/-- The lists are the same once repetitions are dropped. -/
def SameFirsts (xs ys : List α) : Prop :=
  xs.eraseDups = ys.eraseDups

namespace SameFirsts

theorem refl (xs : List α) : SameFirsts xs xs := rfl

theorem symm {xs ys : List α} (same : SameFirsts xs ys) : SameFirsts ys xs := Eq.symm same

theorem trans {xs ys zs : List α} (first : SameFirsts xs ys) (second : SameFirsts ys zs) :
    SameFirsts xs zs := Eq.trans first second

theorem mem_iff {xs ys : List α} (same : SameFirsts xs ys) (a : α) : a ∈ xs ↔ a ∈ ys := by
  rw [← List.mem_eraseDups, same, List.mem_eraseDups]

theorem eraseDups (xs : List α) : SameFirsts xs.eraseDups xs :=
  eraseDups_of_nodup (nodup_eraseDups xs)

theorem filter (p : α → Bool) {xs ys : List α} (same : SameFirsts xs ys) :
    SameFirsts (xs.filter p) (ys.filter p) := by
  unfold SameFirsts at *
  rw [eraseDups_filter, eraseDups_filter, same]

theorem append {xs xs' ys ys' : List α} (front : SameFirsts xs xs') (back : SameFirsts ys ys') :
    SameFirsts (xs ++ ys) (xs' ++ ys') := by
  have removed : ys.removeAll xs = ys.removeAll xs' := by
    unfold List.removeAll
    apply List.filter_congr
    intro b _
    simp [front.mem_iff b]
  unfold SameFirsts at *
  rw [List.eraseDups_append, List.eraseDups_append, front, removed, List.removeAll,
    List.removeAll, eraseDups_filter, eraseDups_filter, back]

theorem flatMap_left {f g : α → List β} {xs : List α}
    (each : ∀ a ∈ xs, SameFirsts (f a) (g a)) : SameFirsts (xs.flatMap f) (xs.flatMap g) := by
  induction xs with
  | nil => exact refl _
  | cons a rest ih =>
    simp only [List.flatMap_cons]
    exact (each a List.mem_cons_self).append
      (ih fun b member => each b (List.mem_cons_of_mem a member))

/-- What a repeated value gives is all removed behind its first occurrence. -/
theorem removeAll_flatMap_filter (f : α → List β) (a : α) (rest : List α) :
    ((rest.filter fun b => !b == a).flatMap f).removeAll (f a) =
      (rest.flatMap f).removeAll (f a) := by
  have emptied : (f a).removeAll (f a) = [] := by simp [List.removeAll]
  simp only [List.removeAll, List.filter_flatMap] at *
  induction rest with
  | nil => rfl
  | cons b rest ih =>
    by_cases same : b = a
    · rw [List.filter_cons_of_neg (by simp [same]), ih, List.flatMap_cons, same, emptied,
        List.nil_append]
    · rw [List.filter_cons_of_pos (by simp [same]), List.flatMap_cons, List.flatMap_cons, ih]

/-- What a repeated value gives has come before: it may be left out beforehand. -/
theorem flatMap_eraseDups (f : α → List β) (xs : List α) :
    SameFirsts (xs.eraseDups.flatMap f) (xs.flatMap f) := by
  induction xs using eraseDups_induction with
  | nil => exact refl _
  | cons a rest ih =>
    rw [List.eraseDups_cons, List.flatMap_cons, List.flatMap_cons]
    refine ((refl (f a)).append ih).trans ?_
    unfold SameFirsts
    rw [List.eraseDups_append, List.eraseDups_append, removeAll_flatMap_filter]

theorem flatMap {f g : α → List β} {xs ys : List α} (same : SameFirsts xs ys)
    (each : ∀ a ∈ ys, SameFirsts (f a) (g a)) : SameFirsts (xs.flatMap f) (ys.flatMap g) := by
  have swapped : SameFirsts (xs.flatMap f) (ys.flatMap f) := by
    refine (flatMap_eraseDups f xs).symm.trans ?_
    rw [same]
    exact flatMap_eraseDups f ys
  exact swapped.trans (flatMap_left each)

theorem map (f : α → β) {xs ys : List α} (same : SameFirsts xs ys) :
    SameFirsts (xs.map f) (ys.map f) := by
  rw [List.map_eq_flatMap, List.map_eq_flatMap]
  exact same.flatMap fun a _ => refl _

end SameFirsts

end PromptTemplate
