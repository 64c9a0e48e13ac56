/-
# PromptTemplate.Proofs.Sampling.Requests -- every request of a random rendering is valid

A number is drawn from a range that must not be empty, a list is asked for an item that it
must have, and room is made for a number of texts that must not be too large.  The
renderings of `Checked` ask for the same as those of `Sampling`, and do something else
entirely, whatever that is, as soon as a request is invalid.  They are the same renderings
(`Checked.prompts_eq`), so no request is.

The weights of a variant are the one thing that is not always valid: nothing keeps their
sum from being infinite, and no such variant is ever rendered
(`outcome_variant_of_overflows`).
-/
import PromptTemplate.Proofs.Sampling.Failures
import PromptTemplate.Proofs.Template.Variants

set_option autoImplicit false

namespace PromptTemplate.Sampling

open Template (StandsIn BoundsBelow)

variable {σ : Type}

/-- In a bound there are numbers below a million only. -/
def boundLimit : Nat := 1000000

namespace Checked

/-! ## Requests -/

section Requests

variable {α : Type} (misuse : (α : Type) → Draw σ α)

/-- The draw, if the request for it is valid. -/
def request (valid : Prop) [Decidable valid] (draw : Draw σ α) : Draw σ α :=
  if valid then draw else misuse α

def itemAt (items : List α) (index : Nat) : Draw σ α :=
  match items[index]? with
  | some item => return item
  | none => misuse α

variable [WordSource σ]

def wildcard (nested : Text → Draw σ Text) (values : List Text) : Draw σ Text :=
  if values.isEmpty then return []
  else do
    let index ← request misuse (0 < values.length) (Draw.below32 values.length)
    nested (← itemAt misuse values index)

def drawValue (selector : Selector) (option : Nat) : Draw σ (Option Nat) := do
  match ← itemAt misuse selector.alternatives option with
  | .values texts => do
    return some (← request misuse (0 < texts.length) (Draw.below64 texts.length))
  | .template _ => return none

def pick? (selector : Selector) : Draw σ (Option Pick) :=
  match selector.choice with
  | none => return none
  | some choice => do
    let option ← choice.draw
    let value ← drawValue misuse selector option
    return some ⟨option, value⟩

/-- From the least to the most distinct values; there must be room for as many as are
wanted. -/
def collect {ι : Type} [BEq α] (pick? : Draw σ (Option ι)) (render : ι → Draw σ α)
    (room least most : Nat) : Draw σ (List α) := do
  let wanted ← request misuse (least ≤ max least most) (Draw.between least (max least most))
  request misuse (wanted < room) (Collector.extend pick? render [] wanted)

end Requests

/-! ## Renderings -/

variable [WordSource σ] (misuse : (α : Type) → Draw σ α) (provider : Provider)

/-- The rendering of a variant.  There is room for the texts of a million picks, and for
as many as the variant has options. -/
def variant (nested : Text → Draw σ Text) (options : List (Weighted Template))
    (renderings : List (Draw σ Text)) (range : PickRange) (joiner : Text) : Draw σ Text :=
  if options.isEmpty then return []
  else do
    let selector ← Draw.ofResult (Selector.ofOptions provider options)
    let picked ← collect misuse (pick? misuse selector) (renderPick nested selector renderings)
      (max boundLimit (options.length + 1)) range.least range.most
    return Text.joinAll joiner picked

mutual

def render (nested : Text → Draw σ Text) : Template → Draw σ Text
  | .literal text => return text
  | .wildcard name => wildcard misuse nested (provider.resolve name)
  | .sequence parts separator => do
    let rendered ← renderParts nested parts
    return Text.trim (Text.joinNonEmpty separator rendered)
  | .variant options range joiner =>
    variant misuse provider nested options (renderOptions nested options) range joiner

def renderParts (nested : Text → Draw σ Text) : List Template → Draw σ (List Text)
  | [] => return []
  | part :: rest => do
    let text ← render nested part
    return text :: (← renderParts nested rest)

def renderOptions (nested : Text → Draw σ Text) :
    List (Weighted Template) → List (Draw σ Text)
  | [] => []
  | ⟨_, value⟩ :: rest => render nested value :: renderOptions nested rest

end

def renderValue : Nat → Text → Draw σ Text
  | 0, value => throw (.generation (.recursionLimit maxDepth value))
  | levels + 1, value =>
    match Template.parse value with
    | .error e => throw (.generation (.parse e))
    | .ok template => render misuse provider (renderValue levels) template

def promptsOf (template : Template) : Nat → Draw σ (List Text)
  | 0 => return []
  | count + 1 => do
    let prompt ← render misuse provider (renderValue misuse provider maxDepth) template
    return prompt :: (← promptsOf template count)

def prompts (text : Text) (count : Nat) : Draw σ (List Text) :=
  match Template.parse text with
  | .error e => throw (.generation (.parse e))
  | .ok template => promptsOf misuse provider template count

end Checked

/-! ## Every request is valid -/

namespace Checked

variable {misuse : (α : Type) → Draw σ α}

theorem request_of {α : Type} {valid : Prop} [Decidable valid] (holds : valid) (draw : Draw σ α) :
    request misuse valid draw = draw :=
  if_pos holds

theorem itemAt_of {α : Type} {items : List α} {index : Nat} {item : α}
    (here : items[index]? = some item) : itemAt misuse items index = pure item := by
  rw [itemAt, here]

variable [WordSource σ] {provider : Provider} {nested nested' : Text → Draw σ Text}

theorem wildcard_eq {values : List Text} (same : ∀ value ∈ values, nested' value = nested value) :
    wildcard misuse nested' values = Sampling.wildcard nested values := by
  unfold wildcard Sampling.wildcard
  split
  · rfl
  · rename_i some
    have positive : 0 < values.length := by simpa [List.length_pos_iff] using some
    have drawn : Ends (Draw.below32 values.length : Draw σ Nat)
        (fun index => 0 < values.length → index < values.length) fun _ _ => True :=
      ends_below32 (fun _ _ => trivial) values.length
    rw [request_of positive]
    apply drawn.bind_congr
    intro index below
    have here := List.getElem?_eq_getElem (below positive)
    rw [itemAt_of here, pure_bind, here, Option.getD_some]
    exact same _ (List.getElem_mem _)

/-- The values that the provider has are read alike. -/
def ReadAlike (provider : Provider) (nested' nested : Text → Draw σ Text) : Prop :=
  ∀ name, ∀ value ∈ provider.resolve name, nested' value = nested value

section Picks

variable {options : List (Weighted Template)} {selector : Selector}

theorem drawValue_eq {index : Nat} {alternative : Alternative}
    (here : selector.alternatives[index]? = some alternative)
    (selectable : alternative.isSelectable = true) :
    (drawValue misuse selector index : Draw σ (Option Nat)) = selector.drawValue index := by
  rw [drawValue, Selector.drawValue, itemAt_of here, pure_bind, here]
  cases alternative with
  | template template => rfl
  | values texts =>
    have positive : 0 < texts.length := by
      simpa [Alternative.isSelectable, List.length_pos_iff] using selectable
    simp only [request_of positive]

/-- Only what has something to select is chosen. -/
theorem pick?_eq (built : Selector.ofOptions provider options = .ok selector) :
    (pick? misuse selector : Draw σ (Option Pick)) = selector.pick? := by
  unfold pick? Selector.pick?
  cases chosen : selector.choice with
  | none => rfl
  | some choice =>
    -- what is chosen has some weight, and only what can be selected has any
    have selectable : Ends (choice.draw : Draw σ Nat)
        (fun index => ∃ option, options[index]? = some option ∧
          (Alternative.ofTemplate provider option.value).isSelectable = true)
        fun _ _ => True :=
      (ends_word64 fun _ _ => trivial).of_bind fun word =>
        .pure (isSelectable_of_index built chosen word)
    apply selectable.bind_congr
    rintro index ⟨option, here, selects⟩
    have alternative : selector.alternatives[index]? =
        some (Alternative.ofTemplate provider option.value) := by
      rw [(alternatives_of_ofOptions built).1, List.getElem?_map, here, Option.map_some]
    rw [drawValue_eq alternative selects]

omit [WordSource σ] in
/-- What a pick refers to is a value of the provider, so values that are read alike are
rendered alike. -/
theorem renderPick_eq (built : Selector.ofOptions provider options = .ok selector)
    (same : ReadAlike provider nested' nested)
    (renderings : List (Draw σ Text)) :
    renderPick nested' selector renderings = renderPick nested selector renderings := by
  funext pick
  unfold renderPick
  split
  · rfl
  · rename_i selected
    obtain ⟨option, name, -, -, isValue⟩ := bareWildcard?_of_selected? built selected
    exact same name _ isValue
  · rfl

end Picks

theorem collect_eq {α ι : Type} [BEq α] {draw : Draw σ (Option ι)} {render : ι → Draw σ α}
    {room least most : Nat} (ordered : least ≤ most) (enough : most < room) :
    collect misuse draw render room least most = Collector.collect draw render least most := by
  rw [collect, Collector.collect, Nat.max_eq_right ordered, request_of ordered]
  have drawn : Ends (Draw.between least most : Draw σ Nat)
      (fun wanted => least ≤ wanted ∧ wanted ≤ most) fun _ _ => True :=
    ends_between (fun _ _ => trivial) ordered
  apply drawn.bind_congr
  intro wanted within
  exact request_of (Nat.lt_of_le_of_lt within.2 enough) _

/-- There is room for as many texts as each variant of the template may pick. -/
def HasRoom (template : Template) : Prop :=
  ∀ {options : List (Weighted Template)} {range : PickRange} {joiner : Text},
    StandsIn (.variant options range joiner) template →
      range.most < max boundLimit (options.length + 1)

theorem HasRoom.part {parts : List Template} {separator : Text} {part : Template}
    (room : HasRoom (.sequence parts separator)) (member : part ∈ parts) : HasRoom part := by
  intro options range joiner stands
  exact room (.part member stands)

theorem HasRoom.option {options : List (Weighted Template)} {range : PickRange} {joiner : Text}
    {option : Weighted Template} (room : HasRoom (.variant options range joiner))
    (member : option ∈ options) : HasRoom option.value := by
  intro options range joiner stands
  exact room (.option member stands)

theorem renderParts_eq {parts : List Template}
    (each : ∀ part ∈ parts,
      render misuse provider nested' part = Sampling.render provider nested part) :
    renderParts misuse provider nested' parts = Sampling.renderParts provider nested parts := by
  induction parts with
  | nil => rw [renderParts, Sampling.renderParts]
  | cons part rest ih =>
    obtain ⟨first, others⟩ := List.forall_mem_cons.1 each
    rw [renderParts, Sampling.renderParts, first, ih others]

theorem renderOptions_eq {options : List (Weighted Template)}
    (each : ∀ option ∈ options,
      render misuse provider nested' option.value = Sampling.render provider nested option.value) :
    renderOptions misuse provider nested' options =
      Sampling.renderOptions provider nested options := by
  induction options with
  | nil => rw [renderOptions, Sampling.renderOptions]
  | cons option rest ih =>
    obtain ⟨first, others⟩ := List.forall_mem_cons.1 each
    rw [renderOptions, Sampling.renderOptions, first, ih others]

/-- No check fails in a template with room: the checked rendering is the rendering. -/
theorem render_eq (same : ReadAlike provider nested' nested) {template : Template}
    (room : HasRoom template) :
    render misuse provider nested' template = Sampling.render provider nested template := by
  induction template with
  | literal text => rw [render, Sampling.render]
  | wildcard name => rw [render, Sampling.render, wildcard_eq (same name)]
  | sequence parts separator ih =>
    rw [render, Sampling.render,
      renderParts_eq fun part member => ih part member (room.part member)]
  | variant options range joiner ih =>
    rw [render, Sampling.render,
      renderOptions_eq fun option member => ih option member (room.option member)]
    unfold variant Sampling.variant
    split
    · rfl
    · have selectors : Ends (Draw.ofResult (Selector.ofOptions provider options) : Draw σ Selector)
          (fun selector => Selector.ofOptions provider options = .ok selector) fun _ _ => True :=
        ends_selector fun _ _ => trivial
      apply selectors.bind_congr
      intro selector built
      rw [pick?_eq built, renderPick_eq built same, collect_eq range.least_le_most (room .itself)]

/-- Bounds below a million leave room in every variant of the text. -/
theorem hasRoom_of_parse {text : Text} (below : BoundsBelow boundLimit text) {template : Template}
    (read : Template.parse text = .ok template) : HasRoom template := by
  intro options range joiner stands
  exact Template.most_lt_of_boundsBelow (by decide) below read stands

section Texts

variable (values : ∀ name, ∀ value ∈ provider name, BoundsBelow boundLimit value)
include values

theorem renderValue_eq (levels : Nat) {value : Text} (below : BoundsBelow boundLimit value) :
    (renderValue misuse provider levels value : Draw σ Text) =
      Sampling.renderValue provider levels value := by
  induction levels generalizing value with
  | zero => rw [renderValue, Sampling.renderValue]
  | succ levels ih =>
    rw [renderValue, Sampling.renderValue]
    cases read : Template.parse value with
    | error e => rfl
    | ok template =>
      exact render_eq (fun name value isValue => ih (values _ value isValue))
        (hasRoom_of_parse below read)

/-- Whatever invalid requests lead to, they lead to it nowhere. -/
theorem prompts_eq {text : Text} (below : BoundsBelow boundLimit text) (count : Nat) :
    (prompts misuse provider text count : Draw σ (List Text)) =
      Sampling.prompts provider text count := by
  unfold prompts Sampling.prompts
  cases read : Template.parse text with
  | error e => rfl
  | ok template =>
    have once : render misuse provider (renderValue misuse provider maxDepth) template =
        (renderAt provider 0 template : Draw σ Text) :=
      render_eq (fun name value isValue => renderValue_eq values maxDepth (values _ value isValue))
        (hasRoom_of_parse below read)
    show promptsOf misuse provider template count = Sampling.promptsOf provider template count
    induction count with
    | zero => rw [promptsOf, Sampling.promptsOf]
    | succ count ih => rw [promptsOf, Sampling.promptsOf, once, ih]

end Texts

end Checked

/-! ## How prompts end -/

/-- A text whose bounds have numbers below a million, with values of which the same
holds, asks for nothing invalid.  There are as many prompts as were asked for, unless the
text or a value cannot be read, or the source runs dry, or a variant that is reached has
weights that sum to infinity.  Such a variant always fails. -/
theorem prompts_requests_valid {σ : Type} [WordSource σ] (provider : Provider) (text : Text)
    (count : Nat) (own : BoundsBelow boundLimit text)
    (values : ∀ name, ∀ value ∈ provider name, BoundsBelow boundLimit value) :
    (∀ misuse : (α : Type) → Draw σ α,
      Checked.prompts misuse provider text count = prompts provider text count) ∧
    (∀ source : σ, match Draw.outcome (prompts provider text count) source with
      | (.ok found, _) => found.length = count
      | (.error e, rest) => TextMayFail provider text e rest) ∧
    ∀ (nested : Text → Draw σ Text) (options : List (Weighted Template)) (range : PickRange)
      (joiner : Text) (source : σ), Overflows provider options →
        Draw.outcome (render provider nested (.variant options range joiner)) source =
          (.error .infiniteTotal, source) := by
  refine ⟨fun misuse => Checked.prompts_eq values own count, fun source => ?_, ?_⟩
  · have ends := ends_prompts (σ := σ) provider text count
    rcases ended : Draw.outcome (prompts provider text count) source with ⟨e | found, rest⟩
    · exact ends.allowed ended
    · exact ends.kept ended
  · intro nested options range joiner source overflows
    exact outcome_variant_of_overflows overflows range joiner source

/-- The value that is picked asks for two of three options itself. -/
theorem prompts_requests_valid_nested :
    let provider : Provider := fun _ => ["{2-3$$&$$x|y|z}".toList, "{0::w|v}".toList]
    let text : Text := "{2$$a|__c__} end".toList
    let source := Script.ofWords [5, 0xf000000000000000, 5, 5, 5, 0xf000000000000000, 5]
    BoundsBelow boundLimit text ∧
      (∀ name, ∀ value ∈ provider name, BoundsBelow boundLimit value) ∧
      (Draw.outcome (Checked.prompts (fun _ => throw .exhausted) provider text 1) source).1 =
        .ok ["x&z,a end".toList] := by
  intro provider text source
  have own : BoundsBelow boundLimit text := by decide +kernel
  have values : ∀ name, ∀ value ∈ provider name, BoundsBelow boundLimit value := by
    intro name
    decide +kernel
  have valid := (prompts_requests_valid (σ := Script) provider text 1 own values).1
  refine ⟨own, values, ?_⟩
  rw [valid]
  decide +kernel

/-- Two weights of ten to the power 308 are finite, but their sum is not; so there is no
prompt, though both options are empty. -/
theorem prompts_overflow :
    let weight : Text := '1' :: List.replicate 308 '0'
    let text : Text := ['{'] ++ weight ++ "::|".toList ++ weight ++ "::".toList ++ ['}']
    let provider : Provider := fun _ => []
    BoundsBelow boundLimit text ∧
      (∀ name, ∀ value ∈ provider name, BoundsBelow boundLimit value) ∧
      (Draw.outcome (prompts provider text 1) (Script.ofWords (List.replicate 500 5))).1 =
        .error .infiniteTotal := by
  intro weight text provider
  exact ⟨by decide +kernel, fun name => nofun, by decide +kernel⟩

end PromptTemplate.Sampling
