/-
# PromptTemplate.Proofs.Template.Printing -- the printed tree tells the template

The JSON object of a template holds everything about it but the weights themselves, of
which it holds the decimal texts (`toJson_eq_toJson_iff`): what kind of template it is
stands first, and the parts and options stand in arrays in their order.

All numbers in it are numbers, so its indented form is read back as the object.  Hence two
templates are printed alike exactly when they are alike (`pretty_eq_pretty_iff`), whatever
their texts hold and however they are nested.
-/
import Mathlib.Data.List.Forall2
import PromptTemplate.Proofs.Binary64.Decimal
import PromptTemplate.Proofs.Json.ReadBack
import PromptTemplate.Template.Json

set_option autoImplicit false

namespace PromptTemplate

/-! ## Weights -/

theorem Binary64.wellFormed_toJson (x : Binary64) : x.toJson.WellFormed := by
  unfold toJson
  split
  · rename_i written
    exact .number (number_of_decimalText? written)
  · exact .null

/-- Weights are told apart by their decimal texts. -/
theorem Binary64.toJson_eq_toJson_iff (x y : Binary64) :
    x.toJson = y.toJson ↔ x.decimalText? = y.decimalText? := by
  unfold toJson
  cases x.decimalText? <;> cases y.decimalText? <;> simp

namespace Template

/-- The templates are the same but for weights, and these have the same decimal texts. -/
inductive Alike : Template → Template → Prop where
  | literal (text : Text) : Alike (.literal text) (.literal text)
  | wildcard (name : Text) : Alike (.wildcard name) (.wildcard name)
  | sequence {parts parts' : List Template} (separator : Text)
      (each : List.Forall₂ Alike parts parts') :
      Alike (.sequence parts separator) (.sequence parts' separator)
  | variant {options options' : List (Weighted Template)} (range : PickRange) (joiner : Text)
      (weights : options.map (fun option => option.weight.decimalText?) =
        options'.map fun option => option.weight.decimalText?)
      (values : List.Forall₂ Alike (options.map fun option => option.value)
        (options'.map fun option => option.value)) :
      Alike (.variant options range joiner) (.variant options' range joiner)

theorem alike_literal_iff {text text' : Text} :
    Alike (.literal text) (.literal text') ↔ text = text' := by
  constructor
  · rintro ⟨⟩
    rfl
  · rintro rfl
    exact .literal text

theorem alike_wildcard_iff {name name' : Text} :
    Alike (.wildcard name) (.wildcard name') ↔ name = name' := by
  constructor
  · rintro ⟨⟩
    rfl
  · rintro rfl
    exact .wildcard name

theorem alike_sequence_iff {parts parts' : List Template} {separator separator' : Text} :
    Alike (.sequence parts separator) (.sequence parts' separator') ↔
      List.Forall₂ Alike parts parts' ∧ separator = separator' := by
  constructor
  · rintro (_ | _ | ⟨_, each⟩)
    exact ⟨each, rfl⟩
  · rintro ⟨each, rfl⟩
    exact .sequence separator each

theorem alike_variant_iff {options options' : List (Weighted Template)} {range range' : PickRange}
    {joiner joiner' : Text} :
    Alike (.variant options range joiner) (.variant options' range' joiner') ↔
      ((options.map fun option => option.weight.decimalText?) =
          (options'.map fun option => option.weight.decimalText?) ∧
        List.Forall₂ Alike (options.map fun option => option.value)
          (options'.map fun option => option.value)) ∧ range = range' ∧ joiner = joiner' := by
  constructor
  · rintro (_ | _ | _ | ⟨_, _, weights, values⟩)
    exact ⟨⟨weights, values⟩, rfl, rfl⟩
  · rintro ⟨⟨weights, values⟩, rfl, rfl⟩
    exact .variant range joiner weights values

/-! ## The object of a template -/

theorem partsToJson_eq_map (parts : List Template) : partsToJson parts = parts.map toJson := by
  induction parts with
  | nil => rfl
  | cons part rest ih => rw [partsToJson, ih, List.map_cons]

def optionToJson (option : Weighted Template) : Json :=
  .ofMembers [("weight".toList, option.weight.toJson), ("value".toList, option.value.toJson)]

theorem optionsToJson_eq_map (options : List (Weighted Template)) :
    optionsToJson options = options.map optionToJson := by
  induction options with
  | nil => rfl
  | cons option rest ih => rw [optionsToJson, ih, List.map_cons, optionToJson]

theorem optionToJson_inj {a b : Weighted Template} :
    optionToJson a = optionToJson b ↔
      a.weight.toJson = b.weight.toJson ∧ a.value.toJson = b.value.toJson := by
  simp [optionToJson, Json.ofMembers]

theorem ofNat_inj {m n : Nat} : Json.ofNat m = Json.ofNat n ↔ m = n := by
  refine ⟨fun same => ?_, congrArg Json.ofNat⟩
  rw [← Text.digitsValue_ofNat m, ← Text.digitsValue_ofNat n]
  exact congrArg Text.digitsValue (Json.number.inj same)

theorem toJson_sequence_inj {parts parts' : List Template} {separator separator' : Text} :
    (sequence parts separator).toJson = (sequence parts' separator').toJson ↔
      parts.map toJson = parts'.map toJson ∧ separator = separator' := by
  simp [toJson, partsToJson_eq_map, Json.ofMembers, Json.ofText]

theorem toJson_variant_inj {options options' : List (Weighted Template)} {range range' : PickRange}
    {joiner joiner' : Text} :
    (variant options range joiner).toJson = (variant options' range' joiner').toJson ↔
      options.map optionToJson = options'.map optionToJson ∧ range = range' ∧ joiner = joiner' := by
  have bounds : range = range' ↔ range.least = range'.least ∧ range.most = range'.most := by
    cases range
    cases range'
    simp
  simp [toJson, optionsToJson_eq_map, Json.ofMembers, Json.ofText, ofNat_inj, bounds, and_assoc]

theorem options_toJson_eq_iff (options options' : List (Weighted Template)) :
    options.map optionToJson = options'.map optionToJson ↔
      (options.map fun option => option.weight.decimalText?) =
          (options'.map fun option => option.weight.decimalText?) ∧
        (options.map fun option => option.value).map toJson =
          (options'.map fun option => option.value).map toJson := by
  induction options generalizing options' with
  | nil => cases options' <;> simp
  | cons option rest ih =>
    cases options' with
    | nil => simp
    | cons option' rest' =>
      simp only [List.map_cons, List.cons.injEq, optionToJson_inj,
        Binary64.toJson_eq_toJson_iff, ih]
      exact and_and_and_comm

theorem map_toJson_eq_iff {parts : List Template}
    (each : ∀ part ∈ parts, ∀ other : Template, part.toJson = other.toJson ↔ Alike part other)
    (parts' : List Template) :
    parts.map toJson = parts'.map toJson ↔ List.Forall₂ Alike parts parts' := by
  induction parts generalizing parts' with
  | nil => cases parts' <;> simp
  | cons part rest ih =>
    obtain ⟨first, others⟩ := List.forall_mem_cons.1 each
    cases parts' with
    | nil => simp
    | cons part' rest' =>
      rw [List.map_cons, List.map_cons, List.cons.injEq, first, ih others, List.forall₂_cons]

/-- Templates have one object exactly when they are alike. -/
theorem toJson_eq_toJson_iff (a b : Template) : a.toJson = b.toJson ↔ Alike a b := by
  induction a generalizing b with
  | literal text =>
    cases b with
    | literal text' =>
      rw [alike_literal_iff]
      simp [toJson, Json.ofMembers, Json.ofText]
    | _ => exact iff_of_false (by simp [toJson, Json.ofMembers, Json.ofText]) (by rintro ⟨⟩)
  | wildcard name =>
    cases b with
    | wildcard name' =>
      rw [alike_wildcard_iff]
      simp [toJson, Json.ofMembers, Json.ofText]
    | _ => exact iff_of_false (by simp [toJson, Json.ofMembers, Json.ofText]) (by rintro ⟨⟩)
  | sequence parts separator ih =>
    cases b with
    | sequence parts' separator' =>
      rw [toJson_sequence_inj, alike_sequence_iff, map_toJson_eq_iff ih]
    | _ => exact iff_of_false (by simp [toJson, Json.ofMembers, Json.ofText]) (by rintro ⟨⟩)
  | variant options range joiner ih =>
    cases b with
    | variant options' range' joiner' =>
      have each : ∀ value ∈ options.map fun option => option.value, ∀ other : Template,
          value.toJson = other.toJson ↔ Alike value other := by
        simpa using ih
      rw [toJson_variant_inj, alike_variant_iff, options_toJson_eq_iff, map_toJson_eq_iff each]
    | _ => exact iff_of_false (by simp [toJson, Json.ofMembers, Json.ofText]) (by rintro ⟨⟩)

/-- All numbers in the object of a template are numbers. -/
theorem wellFormed_toJson (template : Template) : template.toJson.WellFormed := by
  induction template with
  | literal text =>
    rw [toJson]
    refine .ofMembers ?_
    simp only [List.forall_mem_cons]
    exact ⟨.string _, .string _, nofun⟩
  | wildcard name =>
    rw [toJson]
    refine .ofMembers ?_
    simp only [List.forall_mem_cons]
    exact ⟨.string _, .string _, nofun⟩
  | sequence parts separator ih =>
    rw [toJson, partsToJson_eq_map]
    refine .ofMembers ?_
    simp only [List.forall_mem_cons]
    exact ⟨.string _, .array (List.forall_mem_map.2 ih), .string _, nofun⟩
  | variant options range joiner ih =>
    have each : ∀ option ∈ options, (optionToJson option).WellFormed := by
      intro option inside
      refine .ofMembers ?_
      simp only [List.forall_mem_cons]
      exact ⟨option.weight.wellFormed_toJson, ih option inside, nofun⟩
    rw [toJson, optionsToJson_eq_map]
    refine .ofMembers ?_
    simp only [List.forall_mem_cons]
    exact ⟨.string _, .array (List.forall_mem_map.2 each), Json.wellFormed_ofNat _,
      Json.wellFormed_ofNat _, .string _, nofun⟩

/-- A printed tree is read back as the object of the template, so two templates are printed
alike exactly when they are the same but for weights that are written alike. -/
theorem pretty_eq_pretty_iff :
    (∀ template : Template, Json.read? template.toJson.pretty = some template.toJson) ∧
      ∀ a b : Template, a.toJson.pretty = b.toJson.pretty ↔ Alike a b := by
  have reads (template : Template) : Json.read? template.toJson.pretty = some template.toJson :=
    Json.read?_pretty template.wellFormed_toJson
  refine ⟨reads, fun a b => ?_⟩
  rw [← toJson_eq_toJson_iff]
  constructor
  · intro same
    have read := reads a
    rw [same, reads b] at read
    exact (Option.some.inj read).symm
  · exact congrArg Json.pretty

end Template

end PromptTemplate
