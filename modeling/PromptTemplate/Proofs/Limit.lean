/-
# PromptTemplate.Proofs.Limit -- values nested deeper than the limit

A rendering fails for the depth of its values only at the end of a chain of 21 references,
and it fails to read a value only at the end of one of at most 20 (`recursion_limit`).
This holds of the enumeration and of a random rendering alike, since both are followed
level by level (`failsBelow_of_mem_expandAt`, `ends_renderAt`).

Names whose values all start with one of those names again (`Cyclic`) never come to an
end: below every level there is a value, so the first thing that either way of rendering
comes to is the limit.
-/
import PromptTemplate.Proofs.Enumeration.Failures
import PromptTemplate.Proofs.Sampling.Failures

set_option autoImplicit false

namespace PromptTemplate

open Template (StandsIn)

/-- The renderings of the template hold the error, or a random rendering of it ends with
the error. -/
def Fails (σ : Type) [WordSource σ] (provider : Provider) (template : Template)
    (e : GenerationError) : Prop :=
  .error e ∈ (Enumeration.expandAt provider 0 template).toList ∨
    ∃ source rest : σ, Draw.outcome (Sampling.renderAt provider 0 template) source =
      (.error (.generation e), rest)

theorem failsBelow_of_fails {σ : Type} [WordSource σ] {provider : Provider} {template : Template}
    {e : GenerationError} (fails : Fails σ provider template e) :
    FailsBelow provider maxDepth template e := by
  rcases fails with member | ⟨source, rest, ended⟩
  · exact Enumeration.failsBelow_of_mem_expandAt member
  · exact (Sampling.ends_renderAt 0 template).allowed ended

/-! ## Cycles -/

/-- The template is a sequence whose first part that is not text is a wildcard with one of
the names. -/
def StartsIn (names : Set Text) (template : Template) : Prop :=
  ∃ (texts : List Text) (name : Text) (rest : List Template) (separator : Text), name ∈ names ∧
    template = .sequence (texts.map .literal ++ .wildcard name :: rest) separator

/-- Every one of the names has values, and all of them start with one of the names. -/
def Cyclic (provider : Provider) (names : Set Text) : Prop :=
  ∀ name ∈ names, provider.resolve name ≠ [] ∧ ∀ value ∈ provider.resolve name,
    ∃ template, Template.parse value = .ok template ∧ StartsIn names template

variable {provider : Provider} {names : Set Text} {template : Template}

namespace Enumeration

theorem halts_expand {nested : Text → Renderings} (starts : StartsIn names template)
    (some : ∀ name ∈ names, provider.resolve name ≠ [])
    (each : ∀ name ∈ names, ∀ value ∈ provider.resolve name, Halts (nested value)) :
    Halts (expand provider nested template) := by
  obtain ⟨texts, name, rest, separator, member, rfl⟩ := starts
  have first : Halts (expand provider nested (.wildcard name)) := by
    rw [expand]
    exact .wildcard (some name member) (each name member)
  rw [expand]
  exact (first.expandParts separator texts rest).map Text.trim

/-- The induction is on the levels that are left below the value. -/
theorem halts_expandValue (cyclic : Cyclic provider names) (levels : Nat) {name : Text}
    (member : name ∈ names) {value : Text} (isValue : value ∈ provider.resolve name) :
    Halts (expandValue provider levels value) := by
  induction levels generalizing name value with
  | zero => exact ⟨value, _, rfl⟩
  | succ levels ih =>
    obtain ⟨inner, read, starts⟩ := (cyclic name member).2 value isValue
    rw [expandValue, read]
    exact halts_expand starts (fun name member => (cyclic name member).1) fun _ => ih

/-- Names that only lead to each other end every enumeration at the limit. -/
theorem promptsOf_of_cyclic (cyclic : Cyclic provider names) (starts : StartsIn names template)
    {most : Nat} (positive : 0 < most) :
    ∃ value, promptsOf provider template most = .error (.recursionLimit maxDepth value) := by
  have halts : Halts (expandAt provider 0 template) :=
    halts_expand starts (fun name member => (cyclic name member).1)
      fun _ => halts_expandValue cyclic maxDepth
  exact halts.promptsOf positive

end Enumeration

namespace Sampling

variable {σ : Type} [WordSource σ]

/-- The limit is exceeded, or the source is dry before that. -/
def TooDeep : DrawError → σ → Prop
  | .exhausted, rest => WordSource.Dry rest
  | .generation (.recursionLimit limit _), _ => limit = maxDepth
  | _, _ => False

abbrev EndsTooDeep {α : Type} (draw : Draw σ α) : Prop :=
  Ends draw (fun _ => False) TooDeep

variable {nested : Text → Draw σ Text}

theorem endsTooDeep_renderParts (texts : List Text) {part : Template}
    (deep : EndsTooDeep (render provider nested part)) (rest : List Template) :
    EndsTooDeep (renderParts provider nested (texts.map .literal ++ part :: rest)) := by
  induction texts with
  | nil =>
    rw [List.map_nil, List.nil_append, renderParts]
    exact deep.bind fun _ => False.elim
  | cons text texts ih =>
    rw [List.map_cons, List.cons_append, renderParts, render, pure_bind]
    exact ih.bind fun _ => False.elim

theorem endsTooDeep_render (starts : StartsIn names template)
    (some : ∀ name ∈ names, provider.resolve name ≠ [])
    (each : ∀ name ∈ names, ∀ value ∈ provider.resolve name, EndsTooDeep (nested value)) :
    EndsTooDeep (render provider nested template) := by
  obtain ⟨texts, name, rest, separator, member, rfl⟩ := starts
  have first : EndsTooDeep (render provider nested (.wildcard name)) := by
    rw [render]
    exact ends_wildcard (fun _ => id) (some name member) (each name member)
  rw [render]
  exact (endsTooDeep_renderParts texts first rest).bind fun _ => False.elim

/-- The induction is on the levels that are left below the value. -/
theorem endsTooDeep_renderValue (cyclic : Cyclic provider names) (levels : Nat) {name : Text}
    (member : name ∈ names) {value : Text} (isValue : value ∈ provider.resolve name) :
    EndsTooDeep (renderValue provider levels value : Draw σ Text) := by
  induction levels generalizing name value with
  | zero =>
    rw [renderValue]
    exact .throw fun _ => rfl
  | succ levels ih =>
    obtain ⟨inner, read, starts⟩ := (cyclic name member).2 value isValue
    rw [renderValue, read]
    exact endsTooDeep_render starts (fun name member => (cyclic name member).1) fun _ => ih

/-- Names that only lead to each other end every random prompt at the limit. -/
theorem endsTooDeep_promptsOf (cyclic : Cyclic provider names) (starts : StartsIn names template)
    {count : Nat} (positive : 0 < count) :
    EndsTooDeep (promptsOf provider template count : Draw σ (List Text)) := by
  cases count with
  | zero => exact absurd positive (Nat.lt_irrefl 0)
  | succ count =>
    have first : EndsTooDeep (renderAt provider 0 template : Draw σ Text) :=
      endsTooDeep_render starts (fun name member => (cyclic name member).1)
        fun _ => endsTooDeep_renderValue cyclic maxDepth
    rw [promptsOf]
    exact first.bind fun _ => False.elim

end Sampling

/-! ## The limit -/

/-- Rendering from depth zero fails for depth exactly past 20 nested values: only a chain
of 21 references leads to that error, and a cycle always does. -/
theorem recursion_limit {σ : Type} [WordSource σ] (provider : Provider) :
    (∀ template limit last, Fails σ provider template (.recursionLimit limit last) →
      limit = 20 ∧ ∃ chain, Leads provider template chain last ∧ chain.length = 21) ∧
    (∀ template e, Fails σ provider template (.parse e) →
      ∃ chain last, Leads provider template chain last ∧ chain.length ≤ 20 ∧
        Template.parse last = .error e) ∧
    (∀ template, (∀ chain last, Leads provider template chain last → chain.length ≤ 20) →
      ∀ limit last, ¬ Fails σ provider template (.recursionLimit limit last)) ∧
    ∀ names, Cyclic provider names → ∀ template, StartsIn names template →
      (∀ most, 0 < most → ∃ last,
        Enumeration.promptsOf provider template most = .error (.recursionLimit 20 last)) ∧
      ∀ count, 0 < count → ∀ source : σ,
        match Draw.outcome (Sampling.promptsOf provider template count) source with
        | (.error (.generation (.recursionLimit limit _)), _) => limit = 20
        | (.error .exhausted, rest) => WordSource.Dry rest
        | _ => False := by
  have deep : ∀ template limit last, Fails σ provider template (.recursionLimit limit last) →
      limit = 20 ∧ ∃ chain, Leads provider template chain last ∧ chain.length = 21 :=
    fun template limit last => failsBelow_of_fails
  refine ⟨deep, fun template e => failsBelow_of_fails, ?_, ?_⟩
  · intro template shallow limit last fails
    obtain ⟨-, chain, leads, length⟩ := deep template limit last fails
    have short := shallow chain last leads
    omega
  · intro names cyclic template starts
    refine ⟨fun most => Enumeration.promptsOf_of_cyclic cyclic starts, ?_⟩
    intro count positive source
    have ends := Sampling.endsTooDeep_promptsOf (σ := σ) cyclic starts positive
    rcases ended : Draw.outcome (Sampling.promptsOf provider template count) source
      with ⟨e | found, rest⟩
    · -- nothing is allowed but the limit itself and a source that is dry
      have allowed := ends.allowed ended
      cases e with
      | exhausted => exact allowed
      | infiniteTotal => exact allowed
      | generation e => cases e <;> exact allowed
    · exact ends.kept ended

/-- A value that refers to itself. -/
theorem recursion_limit_self :
    let provider : Provider := fun name =>
      if name = "self".toList then ["me, __self__".toList] else []
    let template : Template := .ofParts [.wildcard "self".toList]
    (∃ last, Enumeration.promptsOf provider template 1 = .error (.recursionLimit 20 last)) ∧
      ∃ chain, Leads provider template chain "me, __self__".toList ∧ chain.length = 21 := by
  intro provider template
  have values : provider.resolve "self".toList = ["me, __self__".toList] := by decide
  have read : Template.parse "me, __self__".toList =
      .ok (.ofParts [.literal "me,".toList, .wildcard "self".toList]) := by
    with_unfolding_all rfl
  have cyclic : Cyclic provider {"self".toList} := by
    rintro name rfl
    rw [values]
    refine ⟨List.cons_ne_nil _ _, fun value isValue => ?_⟩
    obtain rfl := List.mem_singleton.1 isValue
    exact ⟨_, read, ["me,".toList], _, [], _, rfl, rfl⟩
  have starts : StartsIn {"self".toList} template := ⟨[], _, [], _, rfl, rfl⟩
  have fails : Fails Script provider template (.recursionLimit 20 "me, __self__".toList) :=
    .inl (by decide +kernel)
  have limit := recursion_limit (σ := Script) provider
  exact ⟨(limit.2.2.2 _ cyclic template starts).1 1 Nat.one_pos, (limit.1 _ _ _ fails).2⟩

end PromptTemplate
