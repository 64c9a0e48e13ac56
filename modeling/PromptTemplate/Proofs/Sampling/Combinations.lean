/-
# PromptTemplate.Proofs.Sampling.Combinations -- random renderings are combinations

A random rendering that lost nothing on its way is one of the renderings that the
template stands for.  The walk over the template is followed together with its
enumeration: what a part renders to is in the list of the part, a pick finds an option
and renders to a text of it, and what a variant collects is a selection that its range
allows.  The induction is over the template and, for the values of wildcards, over the
levels that are left.
-/
import PromptTemplate.Proofs.Enumeration.Membership
import PromptTemplate.Proofs.Random.Weights
import PromptTemplate.Proofs.Sampling.Follows

set_option autoImplicit false

namespace PromptTemplate.Sampling

open Enumeration

variable {σ : Type} [WordSource σ] {provider : Provider}

/-! ## Picks -/

section Picks

variable {options : List (Weighted Template)} {selector : Selector}

theorem alternatives_of_ofOptions (built : Selector.ofOptions provider options = .ok selector) :
    selector.alternatives = options.map (fun option => .ofTemplate provider option.value) ∧
      WeightedChoice.ofWeights? (options.map (Selector.weightOf provider)) =
        .ok selector.choice := by
  unfold Selector.ofOptions at built
  cases chosen : WeightedChoice.ofWeights? (options.map (Selector.weightOf provider)) with
  | error e =>
    rw [chosen] at built
    cases built
  | ok choice =>
    rw [chosen] at built
    obtain rfl := Except.ok.inj built
    exact ⟨rfl, rfl⟩

/-- Only an option with some weight is chosen. -/
theorem weightOf_of_index (built : Selector.ofOptions provider options = .ok selector)
    {choice : WeightedChoice} (chosen : selector.choice = some choice) (word : UInt64) :
    ∃ option, options[choice.index word]? = some option ∧
      (Selector.weightOf provider option).magnitude ≠ 0 := by
  have weights := (alternatives_of_ofOptions built).2
  rw [chosen] at weights
  obtain ⟨weight, found, nonzero⟩ := WeightedChoice.magnitude_ne_zero_of_index weights word
  rw [List.getElem?_map] at found
  obtain ⟨option, here, rfl⟩ := Option.map_eq_some_iff.1 found
  exact ⟨option, here, nonzero⟩

/-- Only an option with something to select is chosen. -/
theorem isSelectable_of_index (built : Selector.ofOptions provider options = .ok selector)
    {choice : WeightedChoice} (chosen : selector.choice = some choice) (word : UInt64) :
    ∃ option, options[choice.index word]? = some option ∧
      (Alternative.ofTemplate provider option.value).isSelectable = true := by
  obtain ⟨option, here, nonzero⟩ := weightOf_of_index built chosen word
  refine ⟨option, here, ?_⟩
  by_contra nothing
  rw [Selector.weightOf, if_neg nothing] at nonzero
  exact nonzero rfl

theorem follows_draw (built : Selector.ofOptions provider options = .ok selector)
    {choice : WeightedChoice} (chosen : selector.choice = some choice) :
    Follows (choice.draw : Draw (Observed σ) Nat) choice.draw fun index =>
      ∃ option, options[index]? = some option ∧
        (Alternative.ofTemplate provider option.value).isSelectable = true :=
  Follows.word64.bind fun word => .pure fun _ => isSelectable_of_index built chosen word

/-- A value of something to select refers to it. -/
theorem follows_drawValue (selector : Selector) (index : Nat) :
    Follows (selector.drawValue index : Draw (Observed σ) (Option Nat))
      (selector.drawValue index) fun value => ∀ alternative,
        selector.alternatives[index]? = some alternative → alternative.isSelectable = true →
          (selector.selected? ⟨index, value⟩).isSome = true := by
  unfold Selector.drawValue
  split
  · rename_i texts here
    refine (Follows.below64 texts.length).bind fun n => .pure fun below alternative same some => ?_
    obtain rfl := Option.some.inj (here.symm.trans same)
    have positive : 0 < texts.length := by
      simpa [Alternative.isSelectable, List.length_pos_iff] using some
    simp [Selector.selected?, here, below positive]
  · rename_i noValues
    refine .pure ?_
    intro alternative here _
    cases alternative with
    | template template => simp [Selector.selected?, here]
    | values texts => exact absurd here (noValues texts)

theorem mem_of_selected? {pick : Pick} {text : Text}
    (selected : selector.selected? pick = some (.value text)) :
    ∃ texts, selector.alternatives[pick.option]? = some (.values texts) ∧ text ∈ texts := by
  unfold Selector.selected? at selected
  split at selected
  · cases Option.some.inj selected
  · rename_i texts index here _
    obtain ⟨value, inside, same⟩ := Option.map_eq_some_iff.1 selected
    obtain rfl := Selected.value.inj same
    exact ⟨texts, here, List.mem_of_getElem? inside⟩
  · cases selected

/-- The pick is of an option: of its template, or of a value if it is nothing but a
wildcard. -/
def Finds (provider : Provider) (options : List (Weighted Template)) (selector : Selector)
    (pick : Pick) : Prop :=
  ∃ option, options[pick.option]? = some option ∧
    ((∃ template, selector.selected? pick = some (.template template)) ∨
      ∃ name value, option.value.bareWildcard? = some name ∧ value ∈ provider.resolve name ∧
        selector.selected? pick = some (.value value))

/-- A value is picked only from an option that is nothing but a wildcard, whose value it
is. -/
theorem bareWildcard?_of_selected? (built : Selector.ofOptions provider options = .ok selector)
    {pick : Pick} {text : Text} (selected : selector.selected? pick = some (.value text)) :
    ∃ option name, options[pick.option]? = some option ∧
      option.value.bareWildcard? = some name ∧ text ∈ provider.resolve name := by
  obtain ⟨texts, alternative, inside⟩ := mem_of_selected? selected
  rw [(alternatives_of_ofOptions built).1, List.getElem?_map] at alternative
  obtain ⟨option, here, same⟩ := Option.map_eq_some_iff.1 alternative
  rw [Alternative.ofTemplate] at same
  split at same
  · rename_i name bare
    obtain rfl := Alternative.values.inj same
    exact ⟨option, name, here, bare, inside⟩
  · cases same

theorem finds_of_isSome (built : Selector.ofOptions provider options = .ok selector) {pick : Pick}
    {option : Weighted Template} (here : options[pick.option]? = some option)
    (found : (selector.selected? pick).isSome = true) : Finds provider options selector pick := by
  obtain ⟨selected, same⟩ := Option.isSome_iff_exists.1 found
  refine ⟨option, here, ?_⟩
  cases selected with
  | template template => exact .inl ⟨template, same⟩
  | value text =>
    obtain ⟨own, name, found, bare, inside⟩ := bareWildcard?_of_selected? built same
    obtain rfl := Option.some.inj (here.symm.trans found)
    exact .inr ⟨name, text, bare, inside, same⟩

/-- A pick finds an option, and there is one whenever there is a choice. -/
theorem follows_pick? (built : Selector.ofOptions provider options = .ok selector) :
    Follows (selector.pick? : Draw (Observed σ) (Option Pick)) selector.pick? fun found =>
      (∀ pick, found = some pick → Finds provider options selector pick) ∧
        (selector.choice.isSome = true → found ≠ none) := by
  unfold Selector.pick?
  split
  · rename_i none
    refine .pure ⟨nofun, fun some => ?_⟩
    rw [none] at some
    cases some
  · rename_i choice chosen
    apply (follows_draw built chosen).bind
    intro index
    refine (follows_drawValue selector index).bind fun value => .pure fun refers selectable => ?_
    refine ⟨fun pick same => ?_, fun _ => nofun⟩
    obtain rfl := Option.some.inj same
    obtain ⟨option, here, some⟩ := selectable
    refine finds_of_isSome built here (refers _ ?_ some)
    rw [(alternatives_of_ofOptions built).1, List.getElem?_map, here]
    rfl

end Picks

/-! ## Templates -/

/-- The observed rendering follows the rendering, and the text is in the list of all the
renderings unless that holds an error. -/
abbrev Covered (observed : Draw (Observed σ) Text) (plain : Draw σ Text) (all : Renderings) :
    Prop :=
  Follows observed plain fun text => all.ErrorFree → .ok text ∈ all.toList

section Template

variable {observed : Text → Draw (Observed σ) Text} {plain : Text → Draw σ Text}
  {nested : Text → Renderings}

/-- What a value renders to is in the list of the value, and that list holds trimmed
texts only. -/
structure ValuesCovered (observed : Text → Draw (Observed σ) Text) (plain : Text → Draw σ Text)
    (nested : Text → Renderings) : Prop where
  covered : ∀ value, Covered (observed value) (plain value) (nested value)
  trimmed : ∀ value text, .ok text ∈ (nested value).toList → Text.trim text = text

theorem covered_wildcard (inside : ValuesCovered observed plain nested)
    (name : Text) (values : List Text) :
    Covered (observeWildcard observed name values) (wildcard plain values)
      ((LazyList.ofList values).flatMap nested) := by
  unfold observeWildcard
  split
  · rename_i none
    rw [wildcard, if_pos none]
    exact .note_bind (.pure fun lost => absurd lost id)
  · rename_i some
    rw [wildcard, wildcard, if_neg some, if_neg some]
    apply (Follows.below32 values.length).bind
    intro index
    apply (inside.covered (values[index]?.getD [])).mono
    intro text kept below free
    have positive : 0 < values.length := by
      simpa [List.length_pos_iff] using some
    have isValue : values[index]?.getD [] ∈ values := by
      rw [List.getElem?_eq_getElem (below positive), Option.getD_some]
      exact List.getElem_mem _
    exact mem_flatMap_values isValue (kept (errorFree_value free isValue))

theorem observeOptions_eq_map (options : List (Weighted Template)) :
    observeOptions provider observed options =
      options.map fun option => observe provider observed option.value := by
  induction options with
  | nil => rfl
  | cons option rest ih => rw [observeOptions, ih, List.map_cons]

theorem renderOptions_eq_map (options : List (Weighted Template)) :
    renderOptions provider plain options =
      options.map fun option => render provider plain option.value := by
  induction options with
  | nil => rfl
  | cons option rest ih => rw [renderOptions, ih, List.map_cons]

/-- A pick renders to a text of an option. -/
theorem follows_renderPick
    (inside : ValuesCovered observed plain nested)
    {options : List (Weighted Template)}
    (covered : ∀ option ∈ options, Covered (observe provider observed option.value)
      (render provider plain option.value) (expand provider nested option.value))
    (selector : Selector) (pick : Pick) :
    Follows (renderPick observed selector (observeOptions provider observed options) pick)
      (renderPick plain selector (renderOptions provider plain options) pick) fun text =>
        Finds provider options selector pick →
          (∀ option ∈ options, (expand provider nested option.value).ErrorFree) →
            ∃ option ∈ options, .ok text ∈ (expand provider nested option.value).toList := by
  rw [observeOptions_eq_map, renderOptions_eq_map]
  unfold renderPick
  split
  · -- an option that stands for itself
    rename_i template selected
    rw [List.getElem?_map, List.getElem?_map]
    cases here : options[pick.option]? with
    | none =>
      refine .pure ?_
      rintro ⟨option, found, -⟩
      cases here.symm.trans found
    | some option =>
      have member := List.mem_of_getElem? here
      exact (covered option member).mono fun text kept _ free =>
        ⟨option, member, kept (free option member)⟩
  · -- a value of an option that is nothing but a wildcard
    rename_i value selected
    refine (inside.covered value).mono ?_
    rintro text kept ⟨option, here, found⟩ free
    have member := List.mem_of_getElem? here
    refine ⟨option, member, ?_⟩
    rcases found with ⟨template, other⟩ | ⟨name, own, bare, isValue, same⟩
    · cases selected.symm.trans other
    · obtain rfl := Selected.value.inj (Option.some.inj (selected.symm.trans same))
      have rendered := kept (errorFree_value (errorFree_of_bareWildcard? bare (free option member))
        isValue)
      exact ok_mem_of_bareWildcard? bare (inside.trimmed value text rendered)
        (mem_flatMap_values isValue rendered)
  · -- a pick of nothing finds nothing
    rename_i nothing
    refine .pure ?_
    rintro ⟨option, -, ⟨template, other⟩ | ⟨name, own, -, -, same⟩⟩
    · cases nothing.symm.trans other
    · cases nothing.symm.trans same

/-- A variant is covered when its options are: what it collects is one of the enumerated
selections. -/
theorem covered_variant
    (inside : ValuesCovered observed plain nested)
    {options : List (Weighted Template)}
    (covered : ∀ option ∈ options, Covered (observe provider observed option.value)
      (render provider plain option.value) (expand provider nested option.value))
    (range : PickRange) (joiner : Text) :
    Covered (observeVariant provider observed options (observeOptions provider observed options)
        range joiner)
      (variant provider plain options (renderOptions provider plain options) range joiner)
      (Enumeration.variant (expandOptions provider nested options) range joiner) := by
  unfold observeVariant variant
  split
  · rename_i none
    obtain rfl := List.isEmpty_iff.1 none
    exact .pure fun _ => List.mem_singleton_self _
  · rename_i some
    refine .ofResult_bind ?_
    intro selector built
    have collected := Follows.collect range.one_le_least range.least_le_most
      (follows_pick? (σ := σ) built) (follows_renderPick inside covered selector)
    refine collected.bind fun picked => .note_bind (.pure fun orderly kept free => ?_)
    rw [expandOptions_eq_map] at free ⊢
    have freeOptions : ∀ option ∈ options, (expand provider nested option.value).ErrorFree :=
      fun option member => errorFree_options free _ (List.mem_map_of_mem member)
    -- the journal is orderly, so there are as many texts as the range asks for
    have enough : range.least ≤ picked.length := by
      rcases orderly with reached | ⟨single, selectable⟩
      · exact reached
      · rw [single]
        exact List.length_pos_iff.2 (kept.2 selectable)
    apply ok_mem_variant free enough kept.1.length_le kept.1.nodup
    intro text member
    obtain ⟨option, isOption, rendered⟩ := kept.1.all_sound text member freeOptions
    exact ⟨_, List.mem_map_of_mem isOption, rendered⟩

mutual

/-- A template is covered when the values are. -/
theorem observe_covered (inside : ValuesCovered observed plain nested) :
    ∀ template, Covered (observe provider observed template) (render provider plain template)
      (expand provider nested template)
  | .literal text => by
    rw [observe, render, expand]
    exact .pure fun _ => List.mem_singleton_self _
  | .wildcard name => by
    rw [observe, render, expand]
    exact covered_wildcard inside name (provider.resolve name)
  | .sequence parts separator => by
    rw [observe, render, expand]
    refine (observeParts_covered inside separator parts).bind fun texts => .pure ?_
    intro kept free
    exact ok_mem_map (f := Text.trim) (kept (errorFree_map_iff.1 free))
  | .variant options range joiner => by
    rw [observe, render, expand]
    exact covered_variant inside (observeOptions_covered inside options) range joiner

theorem observeParts_covered
    (inside : ValuesCovered observed plain nested)
    (separator : Text) :
    ∀ parts, Follows (observeParts provider observed parts) (renderParts provider plain parts)
      fun texts => (expandParts provider nested separator parts).ErrorFree →
        .ok (Text.joinNonEmpty separator texts) ∈
          (expandParts provider nested separator parts).toList
  | [] => by
    rw [observeParts, renderParts, expandParts]
    exact .pure fun _ => List.mem_singleton_self _
  | part :: rest => by
    rw [observeParts, renderParts, expandParts]
    apply (observe_covered inside part).bind
    intro text
    refine (observeParts_covered inside separator rest).bind fun texts => .pure ?_
    intro later first free
    have head := first (errorFree_heads free)
    rw [Text.joinNonEmpty_eq_foldr, List.foldr_cons, ← Text.joinNonEmpty_eq_foldr]
    exact ok_mem_crossJoin head (later (errorFree_tails free head))

theorem observeOptions_covered
    (inside : ValuesCovered observed plain nested) :
    ∀ (options : List (Weighted Template)), ∀ option ∈ options,
      Covered (observe provider observed option.value) (render provider plain option.value)
        (expand provider nested option.value)
  | [] => fun _ impossible => absurd impossible List.not_mem_nil
  | ⟨_, value⟩ :: rest => by
    intro option member
    rcases List.mem_cons.1 member with rfl | later
    · exact observe_covered inside value
    · exact observeOptions_covered inside rest option later

end

end Template

theorem observeValue_covered (provider : Provider) (levels : Nat) (value : Text) :
    Covered (observeValue provider levels value : Draw (Observed σ) Text)
      (renderValue provider levels value) (expandValue provider levels value) := by
  induction levels generalizing value with
  | zero =>
    rw [observeValue, renderValue]
    exact .throw _
  | succ levels ih =>
    rw [observeValue, renderValue, expandValue]
    cases Template.parse value with
    | error e => exact .throw _
    | ok template => exact observe_covered ⟨ih, fun _ _ => trim_of_mem_expandValue⟩ template

theorem observeAt_covered (provider : Provider) (depth : Nat) (template : Template) :
    Covered (observeAt provider depth template : Draw (Observed σ) Text)
      (renderAt provider depth template) (expandAt provider depth template) :=
  observe_covered ⟨observeValue_covered provider (maxDepth - depth),
    fun _ _ => trim_of_mem_expandValue⟩ template

/-- Observing a rendering changes neither its result nor the words that it takes. -/
theorem outcome_observeAt (provider : Provider) (depth : Nat) (template : Template) (source : σ) :
    Draw.outcome (observeAt provider depth template) ⟨source, []⟩ =
      ((Draw.outcome (renderAt provider depth template) source).1,
        ⟨(Draw.outcome (renderAt provider depth template) source).2,
          events provider depth template source⟩) := by
  obtain ⟨added, same, -⟩ := observeAt_covered provider depth template source []
  rw [events, same]

/-- A random rendering that meets no wildcard without values, and whose variants collect
as many picks as they must, is one of the renderings of the template.  A variant that may
pick a single option collects as many as it must whenever it has something to select. -/
theorem rendering_mem_expandAt (provider : Provider) (depth : Nat) (template : Template)
    (source rest : σ) (text : Text) (free : (expandAt provider depth template).ErrorFree)
    (ended : Draw.outcome (renderAt provider depth template) source = (.ok text, rest))
    (filled : ∀ name, .emptyWildcard name ∉ events provider depth template source)
    (reached : ∀ least count selectable,
      .collected least count selectable ∈ events provider depth template source →
        least ≤ count ∨ (least = 1 ∧ selectable = true)) :
    .ok text ∈ (expandAt provider depth template).toList := by
  obtain ⟨added, same, kept⟩ := observeAt_covered provider depth template source []
  have journal : events provider depth template source = added := by
    rw [events, same]
    rfl
  rw [ended] at kept
  refine kept text rfl ?_ free
  intro event member
  rw [← journal] at member
  cases event with
  | emptyWildcard name => exact absurd member (filled name)
  | collected least count selectable => exact reached least count selectable member

/-- The variant wants three picks and gives up with one. -/
theorem rendering_mem_expandAt_short :
    let provider : Provider := fun _ => ["red{s|}".toList]
    let template : Template := .sequence [.wildcard ['c'], .variant
      [⟨.one, .literal ['a']⟩, ⟨.one, .wildcard ['c']⟩] ⟨1, 3, by decide, by decide⟩ ['+']] [' ']
    let source := Script.ofWords (5 :: 5 :: 5 :: 0x7fffffffffffffff :: List.replicate 101 5)
    (expandAt provider 0 template).ErrorFree ∧
      (Draw.outcome (renderAt provider 0 template) source).1 = .ok "red s a".toList ∧
      events provider 0 template source = [.collected 1 1 true, .collected 1 1 true] ∧
      .ok "red s a".toList ∈ (expandAt provider 0 template).toList := by
  intro provider template source
  have free : (expandAt provider 0 template).ErrorFree := by
    have all : (expandAt provider 0 template).toList =
        (expandAt provider 0 template).values.map .ok := by decide +kernel
    exact LazyList.errorFree_of_toList all
  have ended : (Draw.outcome (renderAt provider 0 template) source).1 = .ok "red s a".toList := by
    decide +kernel
  have journal : events provider 0 template source =
      [.collected 1 1 true, .collected 1 1 true] := by decide +kernel
  refine ⟨free, ended, journal, ?_⟩
  rcases run : Draw.outcome (renderAt provider 0 template) source with ⟨result, rest⟩
  rw [run] at ended
  obtain rfl : result = .ok "red s a".toList := ended
  refine rendering_mem_expandAt provider 0 template source rest _ free run ?_ ?_
  · intro name member
    rw [journal] at member
    simp at member
  · intro least count selectable member
    rw [journal] at member
    simp only [List.mem_cons, List.not_mem_nil, or_false, or_self, Event.collected.injEq] at member
    exact .inr ⟨member.1, member.2.2⟩

end PromptTemplate.Sampling
