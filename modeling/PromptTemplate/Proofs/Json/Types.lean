/-
# PromptTemplate.Proofs.Json.Types -- values that are read as a type

A value is read as members or as texts exactly when it is the object of the members or the
array of the texts: what is read item by item is what was written item by item
(`mapM_eq_some_iff`).
-/
import PromptTemplate.Json.Basic

set_option autoImplicit false

namespace PromptTemplate.Json

/-- Items are read one by one exactly when they were written one by one. -/
theorem mapM_eq_some_iff {α β : Type} {read : α → Option β} {write : β → α}
    (inverse : ∀ item own, read item = some own ↔ item = write own) (items : List α)
    (owns : List β) : items.mapM read = some owns ↔ items = owns.map write := by
  induction items generalizing owns with
  | nil =>
    rw [List.mapM_nil, Option.pure_def, Option.some.injEq, eq_comm, eq_comm (a := []),
      List.map_eq_nil_iff]
  | cons item rest ih =>
    simp only [List.mapM_cons, Option.bind_eq_bind, Option.bind_eq_some_iff, Option.pure_def,
      Option.some.injEq, inverse, ih]
    constructor
    · rintro ⟨own, rfl, more, rfl, rfl⟩
      rfl
    · intro same
      obtain ⟨own, more, rfl, rfl, rfl⟩ := List.map_eq_cons_iff.1 same.symm
      exact ⟨own, rfl, more, rfl, rfl⟩

theorem text?_eq_some_iff (value : Json) (t : Text) : value.text? = some t ↔ value = ofText t := by
  cases value <;> simp [text?, ofText]

theorem texts?_eq_some_iff (value : Json) (texts : List Text) :
    value.texts? = some texts ↔ value = .array (texts.map ofText) := by
  cases value with
  | array items =>
    rw [texts?, mapM_eq_some_iff text?_eq_some_iff, array.injEq]
  | _ => exact iff_of_false nofun nofun

theorem members?_eq_some_iff (value : Json) (members : List (Text × Json)) :
    value.members? = some members ↔ value = ofMembers members := by
  cases value with
  | object written =>
    have inverse : ∀ (member : Option Text × Json) (own : Text × Json),
        (member.1.map fun key => (key, member.2)) = some own ↔ member = (some own.1, own.2) := by
      rintro ⟨key, item⟩ ⟨name, own⟩
      cases key <;> simp
    rw [members?, mapM_eq_some_iff inverse, ofMembers, object.injEq]
  | _ => exact iff_of_false nofun nofun

end PromptTemplate.Json
