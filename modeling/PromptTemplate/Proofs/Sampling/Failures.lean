/-
# PromptTemplate.Proofs.Sampling.Failures -- what a random rendering fails with

A rendering fails because the source is dry, because a value that it reads fails, or
because the weights of a variant sum to infinity.  A value is read where a wildcard
stands in the template, also when an option that is nothing but a wildcard is picked, so
the failure of a value lies at the end of a chain of references, level by level
(`ends_renderAt`).
-/
import PromptTemplate.Proofs.References
import PromptTemplate.Proofs.Sampling.Combinations
import PromptTemplate.Proofs.Sampling.Ends

set_option autoImplicit false

namespace PromptTemplate.Sampling

open Template (StandsIn)

variable {σ : Type} [WordSource σ] {provider : Provider} {nested : Text → Draw σ Text}
  {failure : DrawError → σ → Prop}

/-! ## Weights -/

/-- The weights of the options sum to infinity, those without anything to select counting
for nothing. -/
def Overflows (provider : Provider) (options : List (Weighted Template)) : Prop :=
  (options.map (Selector.weightOf provider)).all Binary64.isWeight = true ∧
    Binary64.infinity ≤ WeightedChoice.total (options.map (Selector.weightOf provider))

/-- Only weights that overflow keep a selector from being built. -/
theorem ofOptions_eq_error_iff {options : List (Weighted Template)} {e : DrawError} :
    Selector.ofOptions provider options = .error e ↔
      e = .infiniteTotal ∧ Overflows provider options := by
  rw [Overflows, ← WeightedChoice.ofWeights?_eq_error_iff, Selector.ofOptions]
  cases WeightedChoice.ofWeights? (options.map (Selector.weightOf provider)) <;>
    simp [Except.map]

/-- A variant whose weights sum to infinity is never rendered. -/
theorem outcome_variant_of_overflows {options : List (Weighted Template)}
    (overflows : Overflows provider options) (range : PickRange) (joiner : Text) (source : σ) :
    Draw.outcome (render provider nested (.variant options range joiner)) source =
      (.error .infiniteTotal, source) := by
  have some : ¬ options.isEmpty = true := by
    intro none
    obtain rfl := List.isEmpty_iff.1 none
    have positive : 0 < Binary64.infinity := by decide
    exact absurd overflows.2 (Nat.not_le.2 positive)
  rw [render, variant, if_neg some, ofOptions_eq_error_iff.2 ⟨rfl, overflows⟩, outcome_bind]
  rfl

/-! ## Parts of a rendering -/

theorem ends_wildcard (dry : ∀ rest, WordSource.Dry rest → failure .exhausted rest)
    {promise : Text → Prop} {values : List Text} (blank : values = [] → promise [])
    (each : ∀ value ∈ values, Ends (nested value) promise failure) :
    Ends (wildcard nested values) promise failure := by
  unfold wildcard
  split
  · rename_i none
    exact .pure (blank (List.isEmpty_iff.1 none))
  · rename_i some
    apply (ends_below32 dry values.length).bind
    intro index below
    have inside : index < values.length := by
      apply below
      simpa [List.length_pos_iff] using some
    rw [List.getElem?_eq_getElem inside, Option.getD_some]
    exact each _ (List.getElem_mem inside)

omit [WordSource σ] in
/-- A selector is built, unless the weights of the options sum to infinity. -/
theorem ends_selector {options : List (Weighted Template)}
    (overflow : Overflows provider options → ∀ rest, failure .infiniteTotal rest) :
    Ends (Draw.ofResult (Selector.ofOptions provider options))
      (fun selector => Selector.ofOptions provider options = .ok selector) failure := by
  apply Ends.ofResult
  intro e failed
  obtain ⟨rfl, overflows⟩ := ofOptions_eq_error_iff.1 failed
  exact overflow overflows

theorem ends_pick? (dry : ∀ rest, WordSource.Dry rest → failure .exhausted rest)
    (selector : Selector) :
    FailsOnly (selector.pick? : Draw σ (Option Pick)) failure := by
  unfold Selector.pick?
  split
  · exact .pure trivial
  · rename_i choice _
    have chosen : FailsOnly (choice.draw : Draw σ Nat) failure :=
      (ends_word64 dry).of_bind fun _ => .pure trivial
    apply chosen.of_bind
    intro index
    have value : FailsOnly (selector.drawValue index : Draw σ (Option Nat)) failure := by
      unfold Selector.drawValue
      split
      · exact (ends_below64 dry _).bind fun _ _ => .pure trivial
      · exact .pure trivial
    exact value.of_bind fun _ => .pure trivial

/-- What rendering a template relies on: the failures that are allowed where it fails by
itself, and how the values end that it refers to. -/
structure Allows (provider : Provider) (nested : Text → Draw σ Text)
    (failure : DrawError → σ → Prop) (template : Template) : Prop where
  dry : ∀ rest, WordSource.Dry rest → failure .exhausted rest
  overflow : ∀ {options : List (Weighted Template)} {range : PickRange} {joiner : Text},
    StandsIn (.variant options range joiner) template → Overflows provider options →
      ∀ rest, failure .infiniteTotal rest
  value : ∀ {name value : Text}, StandsIn (.wildcard name) template →
    value ∈ provider.resolve name → FailsOnly (nested value) failure

namespace Allows

theorem part {parts : List Template} {separator : Text} {part : Template}
    (allows : Allows provider nested failure (.sequence parts separator)) (member : part ∈ parts) :
    Allows provider nested failure part where
  dry := allows.dry
  overflow stands := allows.overflow (.part member stands)
  value stands := allows.value (.part member stands)

theorem option {options : List (Weighted Template)} {range : PickRange} {joiner : Text}
    {option : Weighted Template}
    (allows : Allows provider nested failure (.variant options range joiner))
    (member : option ∈ options) : Allows provider nested failure option.value where
  dry := allows.dry
  overflow stands := allows.overflow (.option member stands)
  value stands := allows.value (.option member stands)

end Allows

/-- A pick renders an option, or a value of an option that is nothing but a wildcard. -/
theorem ends_renderPick {options : List (Weighted Template)} {selector : Selector}
    (built : Selector.ofOptions provider options = .ok selector)
    (allows : ∀ option ∈ options, Allows provider nested failure option.value)
    (each : ∀ option ∈ options,
      FailsOnly (render provider nested option.value) failure) (pick : Pick) :
    FailsOnly (renderPick nested selector (renderOptions provider nested options) pick)
      failure := by
  rw [renderOptions_eq_map]
  unfold renderPick
  split
  · rw [List.getElem?_map]
    cases here : options[pick.option]? with
    | none => exact .pure trivial
    | some option => exact each option (List.mem_of_getElem? here)
  · -- the value belongs to a wildcard that stands in the option
    rename_i selected
    obtain ⟨option, name, here, bare, isValue⟩ := bareWildcard?_of_selected? built selected
    exact (allows option (List.mem_of_getElem? here)).value
      (Template.standsIn_of_bareWildcard? bare) isValue
  · exact .pure trivial

/-! ## Templates -/

theorem ends_renderParts {parts : List Template}
    (each : ∀ part ∈ parts, FailsOnly (render provider nested part) failure) :
    FailsOnly (renderParts provider nested parts) failure := by
  induction parts with
  | nil =>
    rw [renderParts]
    exact .pure trivial
  | cons part rest ih =>
    rw [renderParts]
    obtain ⟨first, others⟩ := List.forall_mem_cons.1 each
    exact first.of_bind fun text => (ih others).of_bind fun texts => .pure trivial

/-- Rendering a template fails only as it is allowed to. -/
theorem ends_render {template : Template} (allows : Allows provider nested failure template) :
    FailsOnly (render provider nested template) failure := by
  induction template with
  | literal text =>
    rw [render]
    exact .pure trivial
  | wildcard name =>
    rw [render]
    exact ends_wildcard allows.dry (fun _ => trivial) fun value => allows.value .itself
  | sequence parts separator ih =>
    rw [render]
    have each : ∀ part ∈ parts, FailsOnly (render provider nested part) failure :=
      fun part member => ih part member (allows.part member)
    exact (ends_renderParts each).of_bind fun _ => .pure trivial
  | variant options range joiner ih =>
    rw [render, variant]
    split
    · exact .pure trivial
    · apply (ends_selector (allows.overflow .itself)).bind
      intro selector built
      have each := ends_renderPick built (fun option => allows.option)
        fun option member => ih option member (allows.option member)
      exact (Ends.collect allows.dry (ends_pick? allows.dry selector) each _ _).of_bind
        fun _ => .pure trivial

/-! ## Levels of values -/

/-- What a rendering may fail with when values may be nested so many levels below the
template, and the source that it may leave then. -/
def MayFail (provider : Provider) (levels : Nat) (template : Template) : DrawError → σ → Prop
  | .exhausted, rest => WordSource.Dry rest
  | .infiniteTotal, _ => ∃ host options range joiner, Reaches provider levels template host ∧
      StandsIn (.variant options range joiner) host ∧ Overflows provider options
  | .generation e, _ => FailsBelow provider levels template e

variable {template inner : Template} {name value : Text} {levels : Nat}

theorem MayFail.of_value (stands : StandsIn (.wildcard name) template)
    (isValue : value ∈ provider.resolve name) (read : Template.parse value = .ok inner)
    {e : DrawError} {rest : σ} (may : MayFail provider levels inner e rest) :
    MayFail provider (levels + 1) template e rest := by
  cases e with
  | exhausted => exact may
  | infiniteTotal =>
    obtain ⟨host, options, range, joiner, reaches, inside, overflows⟩ := may
    exact ⟨host, options, range, joiner, reaches.of_value stands isValue read, inside, overflows⟩
  | generation e => exact FailsBelow.of_value stands isValue read may

/-- A template may fail by itself, or as the values that it refers to do. -/
theorem allows_mayFail
    (each : ∀ {name value : Text}, StandsIn (.wildcard name) template →
      value ∈ provider.resolve name →
        FailsOnly (nested value) (MayFail provider levels template)) :
    Allows provider nested (MayFail provider levels template) template where
  dry _ := id
  overflow {options range joiner} stands overflows _ :=
    ⟨template, options, range, joiner, .inl rfl, stands, overflows⟩
  value := each

/-- The induction is on the levels that are left below the value; the template is
whatever refers to it. -/
theorem ends_renderValue (stands : StandsIn (.wildcard name) template)
    (isValue : value ∈ provider.resolve name) :
    FailsOnly (renderValue provider levels value : Draw σ Text)
      (MayFail provider levels template) := by
  induction levels generalizing template name value with
  | zero =>
    rw [renderValue]
    exact .throw fun _ => failsBelow_limit stands isValue
  | succ levels ih =>
    rw [renderValue]
    cases read : Template.parse value with
    | error e => exact .throw fun _ => failsBelow_parse stands isValue read levels
    | ok inner =>
      exact (ends_render (allows_mayFail ih)).mono (fun _ => id)
        fun _ _ => MayFail.of_value stands isValue read

theorem ends_renderAt (depth : Nat) (template : Template) :
    FailsOnly (renderAt provider depth template : Draw σ Text)
      (MayFail provider (maxDepth - depth) template) :=
  ends_render (allows_mayFail ends_renderValue)

/-- There are as many prompts as are asked for, unless a rendering fails. -/
theorem ends_promptsOf (template : Template) (count : Nat) :
    Ends (promptsOf provider template count : Draw σ (List Text))
      (fun found => found.length = count) (MayFail provider maxDepth template) := by
  induction count with
  | zero => exact .pure rfl
  | succ count ih =>
    rw [promptsOf]
    exact (ends_renderAt 0 template).of_bind fun prompt =>
      ih.bind fun found length => .pure (congrArg (· + 1) length)

/-- What the prompts of a text may fail with: that it does not parse, or what its
template may fail with. -/
def TextMayFail (provider : Provider) (text : Text) (e : DrawError) (rest : σ) : Prop :=
  match Template.parse text with
  | .error failed => e = .generation (.parse failed)
  | .ok template => MayFail provider maxDepth template e rest

theorem ends_prompts (provider : Provider) (text : Text) (count : Nat) :
    Ends (prompts provider text count : Draw σ (List Text)) (fun found => found.length = count)
      (TextMayFail provider text) := by
  unfold prompts TextMayFail
  cases Template.parse text with
  | error failed => exact .throw fun _ => rfl
  | ok template => exact ends_promptsOf template count

end PromptTemplate.Sampling
