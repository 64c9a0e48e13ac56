/-
# PromptTemplate.Proofs.Sampling.Picks -- every pick refers to something

An option that is nothing but a wildcard without values is given no weight in one place,
and the number of a value is drawn in another one.  The two agree: what has weight can be
picked (`weightOf_ne_zero_iff`), only what has weight is chosen, and then there is a value
to draw (`ends_drawValue`).  So a pick refers to what stands at its option (`Refers`), and
there are no picks only if there is nothing to select (`choice_eq_none_iff`).

It follows that the text for a pick that refers to nothing is never used: a collection
does not depend on it (`collect_congr`).
-/
import PromptTemplate.Proofs.Sampling.Requests

set_option autoImplicit false

namespace PromptTemplate

namespace Template

/-- The template is nothing but a wildcard, alone or wrapped in sequences of one part. -/
inductive IsBareWildcard (name : Text) : Template → Prop
  | itself : IsBareWildcard name (.wildcard name)
  | wrapped {part : Template} {separator : Text} (inside : IsBareWildcard name part) :
      IsBareWildcard name (.sequence [part] separator)

theorem bareWildcard?_eq_some_iff {template : Template} {name : Text} :
    template.bareWildcard? = some name ↔ IsBareWildcard name template := by
  constructor
  · intro bare
    fun_induction bareWildcard? template with
    | case1 own => exact Option.some.inj bare ▸ .itself
    | case2 part separator ih => exact .wrapped (ih bare)
    | case3 => cases bare
  · intro bare
    induction bare with
    | itself => rw [bareWildcard?]
    | wrapped _ ih => rwa [bareWildcard?]

theorem bareWildcard?_eq_none_iff {template : Template} :
    template.bareWildcard? = none ↔ ∀ name, ¬ IsBareWildcard name template := by
  rw [Option.eq_none_iff_forall_ne_some]
  exact forall_congr' fun name => not_congr bareWildcard?_eq_some_iff

end Template

namespace Sampling

open Template (IsBareWildcard bareWildcard?_eq_some_iff bareWildcard?_eq_none_iff)

variable {σ : Type} {provider : Provider} {options : List (Weighted Template)}
  {selector : Selector}

/-! ## What can be selected -/

/-- The option can be selected: if it is nothing but a wildcard, there are values. -/
def Selectable (provider : Provider) (option : Weighted Template) : Prop :=
  ∀ name, IsBareWildcard name option.value → provider.resolve name ≠ []

/-- No option can be selected by weight: there are none with any weight among those that
can be selected, or one of these has something else for a weight. -/
def NothingSelectable (provider : Provider) (options : List (Weighted Template)) : Prop :=
  (∃ option ∈ options, Selectable provider option ∧ option.weight.isWeight = false) ∨
    ∀ option ∈ options, Selectable provider option → option.weight.magnitude = 0

theorem isSelectable_ofTemplate_iff {option : Weighted Template} :
    (Alternative.ofTemplate provider option.value).isSelectable = true ↔
      Selectable provider option := by
  unfold Alternative.ofTemplate Selectable
  split
  · rename_i name bare
    have own := bareWildcard?_eq_some_iff.1 bare
    rw [Alternative.isSelectable, Bool.not_eq_true', List.isEmpty_eq_false_iff]
    refine ⟨fun some name' bare' => ?_, fun each => each name own⟩
    rw [← bareWildcard?_eq_some_iff, bare] at bare'
    exact Option.some.inj bare' ▸ some
  · rename_i template
    have other := bareWildcard?_eq_none_iff.1 template
    exact iff_of_true rfl fun name bare => absurd bare (other name)

theorem weightOf_isWeight_eq_false_iff {option : Weighted Template} :
    (Selector.weightOf provider option).isWeight = false ↔
      Selectable provider option ∧ option.weight.isWeight = false := by
  rw [← isSelectable_ofTemplate_iff, Selector.weightOf]
  split
  · rename_i selectable
    rw [and_iff_right selectable]
  · rename_i nothing
    exact iff_of_false (by decide) fun both => nothing both.1

/-- An option counts by its own weight if it can be selected, and not at all otherwise. -/
theorem weightOf_ne_zero_iff {option : Weighted Template} :
    (Selector.weightOf provider option).magnitude ≠ 0 ↔
      Selectable provider option ∧ option.weight.magnitude ≠ 0 := by
  rw [← isSelectable_ofTemplate_iff, Selector.weightOf]
  split
  · rename_i selectable
    rw [and_iff_right selectable]
  · rename_i nothing
    exact iff_of_false (fun nonzero => nonzero rfl) fun both => nothing both.1

/-- There is no choice only between options of which none can be selected. -/
theorem choice_eq_none_iff (built : Selector.ofOptions provider options = .ok selector) :
    selector.choice = none ↔ NothingSelectable provider options := by
  have weights := (alternatives_of_ofOptions built).2
  have none : selector.choice = none ↔
      WeightedChoice.ofWeights? (options.map (Selector.weightOf provider)) = .ok none := by
    rw [weights]
    exact ⟨congrArg Except.ok, Except.ok.inj⟩
  rw [none, WeightedChoice.ofWeights?_eq_none_iff, List.forall_mem_map]
  refine or_congr ?_ (forall₂_congr fun option _ => ?_)
  · simp only [List.mem_map, exists_exists_and_eq_and, weightOf_isWeight_eq_false_iff]
  · rw [← not_iff_not, ← ne_eq, weightOf_ne_zero_iff, Classical.not_imp]

/-! ## What a pick refers to -/

/-- The pick is of an option that has weight.  It names a value if the option is nothing
but a wildcard, and that value is what it refers to; else it refers to the option. -/
structure Refers (provider : Provider) (options : List (Weighted Template))
    (selector : Selector) (pick : Pick) (option : Weighted Template) : Prop where
  here : options[pick.option]? = some option
  isWeight : option.weight.isWeight = true
  positive : 0 < option.weight.magnitude
  value_isSome_iff : pick.value.isSome = true ↔ ∃ name, IsBareWildcard name option.value
  ofValue : ∀ name, IsBareWildcard name option.value → ∃ index text,
    pick.value = some index ∧ (provider.resolve name)[index]? = some text ∧
      selector.selected? pick = some (.value text)
  ofTemplate : (∀ name, ¬ IsBareWildcard name option.value) →
    selector.selected? pick = some (.template option.value)

/-- What is chosen can be selected, and has weight. -/
theorem chosen_of_index (built : Selector.ofOptions provider options = .ok selector)
    {choice : WeightedChoice} (chosen : selector.choice = some choice) (word : UInt64) :
    ∃ option, options[choice.index word]? = some option ∧ Selectable provider option ∧
      option.weight.isWeight = true ∧ 0 < option.weight.magnitude := by
  obtain ⟨option, here, nonzero⟩ := weightOf_of_index built chosen word
  obtain ⟨selectable, own⟩ := weightOf_ne_zero_iff.1 nonzero
  refine ⟨option, here, selectable, ?_, Nat.pos_of_ne_zero own⟩
  by_contra invalid
  have none := (choice_eq_none_iff built).2
    (.inl ⟨option, List.mem_of_getElem? here, selectable, Bool.eq_false_iff.2 invalid⟩)
  rw [chosen] at none
  cases none

variable [WordSource σ] {failure : DrawError → σ → Prop}

/-- A value is drawn from those that there are. -/
theorem ends_drawValue (dry : ∀ rest, WordSource.Dry rest → failure .exhausted rest)
    (built : Selector.ofOptions provider options = .ok selector) {index : Nat}
    {option : Weighted Template} (here : options[index]? = some option)
    (selectable : Selectable provider option) (isWeight : option.weight.isWeight = true)
    (positive : 0 < option.weight.magnitude) :
    Ends (selector.drawValue index : Draw σ (Option Nat))
      (fun value => Refers provider options selector ⟨index, value⟩ option) failure := by
  have alternative : selector.alternatives[index]? =
      some (Alternative.ofTemplate provider option.value) := by
    rw [(alternatives_of_ofOptions built).1, List.getElem?_map, here, Option.map_some]
  rw [Selector.drawValue, alternative]
  rw [Alternative.ofTemplate] at alternative ⊢
  cases bare : option.value.bareWildcard? with
  | none =>
    have other := bareWildcard?_eq_none_iff.1 bare
    rw [bare] at alternative
    refine Ends.pure ⟨here, isWeight, positive, ?_, fun name own => absurd own (other name),
      fun _ => ?_⟩
    · exact iff_of_false Bool.false_ne_true fun some => some.elim other
    · rw [Selector.selected?, alternative]
  | some name =>
    have own := bareWildcard?_eq_some_iff.1 bare
    have some := List.length_pos_iff.2 (selectable name own)
    rw [bare] at alternative
    refine (ends_below64 dry _).bind fun n below => Ends.pure
      ⟨here, isWeight, positive, iff_of_true rfl ⟨name, own⟩, fun name' own' => ?_,
        fun other => absurd own (other name)⟩
    have text := List.getElem?_eq_getElem (below some)
    rw [← bareWildcard?_eq_some_iff, bare] at own'
    obtain rfl := Option.some.inj own'
    refine ⟨n, _, rfl, text, ?_⟩
    rw [Selector.selected?, alternative]
    dsimp only
    rw [text, Option.map_some]

/-- A pick refers to an option, and there is one if there is something to select. -/
theorem ends_pick (dry : ∀ rest, WordSource.Dry rest → failure .exhausted rest)
    (built : Selector.ofOptions provider options = .ok selector) :
    Ends (selector.pick? : Draw σ (Option Pick))
      (fun found => (∀ pick, found = some pick → ∃ option,
        Refers provider options selector pick option) ∧
          (¬ NothingSelectable provider options → found ≠ none)) failure := by
  unfold Selector.pick?
  split
  · rename_i none
    exact .pure ⟨nofun, fun some => absurd ((choice_eq_none_iff built).1 none) some⟩
  · rename_i choice chosen
    have choices : Ends (choice.draw : Draw σ Nat)
        (fun index => ∃ option, options[index]? = some option ∧ Selectable provider option ∧
          option.weight.isWeight = true ∧ 0 < option.weight.magnitude) failure :=
      (ends_word64 dry).of_bind fun word => .pure (chosen_of_index built chosen word)
    apply choices.bind
    rintro index ⟨option, here, selectable, isWeight, positive⟩
    apply (ends_drawValue dry built here selectable isWeight positive).bind
    intro value refers
    refine .pure ⟨?_, fun _ => nofun⟩
    intro pick same
    obtain rfl := Option.some.inj same
    exact ⟨option, refers⟩

/-- There are as many picks as asked for, if there is something to select. -/
theorem ends_picks (dry : ∀ rest, WordSource.Dry rest → failure .exhausted rest)
    (built : Selector.ofOptions provider options = .ok selector)
    (some : ¬ NothingSelectable provider options) (count : Nat) :
    Ends (selector.picks count : Draw σ (List Pick))
      (fun picks => picks.length = count ∧
        ∀ pick ∈ picks, ∃ option, Refers provider options selector pick option) failure := by
  induction count with
  | zero => exact .pure ⟨rfl, nofun⟩
  | succ count ih =>
    apply (ends_pick dry built).bind
    rintro found ⟨refers, found_some⟩
    cases found with
    | none => exact absurd rfl (found_some some)
    | some pick =>
      apply ih.bind
      rintro picks ⟨length, each⟩
      exact .pure ⟨congrArg (· + 1) length, List.forall_mem_cons.2 ⟨refers pick rfl, each⟩⟩

/-- Where nothing can be selected no word is drawn for a pick. -/
theorem picks_of_nothing (built : Selector.ofOptions provider options = .ok selector)
    (nothing : NothingSelectable provider options) (count : Nat) :
    (selector.picks count : Draw σ (List Pick)) = pure [] := by
  have none := (choice_eq_none_iff built).2 nothing
  cases count with
  | zero => rfl
  | succ count => rw [Selector.picks, Selector.pick?, none, pure_bind]

/-! ## Rendering a pick -/

section Collecting

omit [WordSource σ]

variable {ι α : Type} [BEq α] {pick? : Draw σ (Option ι)} {render render' : ι → Draw σ α}

/-- Renderings that agree on all that can be picked lead to the same new value. -/
theorem newValue?_congr
    (picks : Ends pick? (fun found => ∀ item, found = some item → render' item = render item)
      failure) (collected : List α) (attempts : Nat) :
    Collector.newValue? pick? render' collected attempts =
      Collector.newValue? pick? render collected attempts := by
  induction attempts with
  | zero => rfl
  | succ attempts ih =>
    apply picks.bind_congr
    intro found same
    cases found with
    | none => rfl
    | some item =>
      dsimp only
      rw [same item rfl, ih]

theorem extend_congr
    (picks : Ends pick? (fun found => ∀ item, found = some item → render' item = render item)
      failure) (collected : List α) (missing : Nat) :
    Collector.extend pick? render' collected missing =
      Collector.extend pick? render collected missing := by
  induction missing generalizing collected with
  | zero => rfl
  | succ missing ih =>
    rw [Collector.extend, Collector.extend, newValue?_congr picks]
    simp only [ih]

/-- A collection depends only on how the items are rendered that can be picked. -/
theorem collect_congr [WordSource σ]
    (picks : Ends pick? (fun found => ∀ item, found = some item → render' item = render item)
      failure) (least most : Nat) :
    Collector.collect pick? render' least most = Collector.collect pick? render least most := by
  simp only [Collector.collect, extend_congr picks]

end Collecting

namespace Checked

omit [WordSource σ]

variable {misuse : (α : Type) → Draw σ α} {nested : Text → Draw σ Text}

/-- The rendering of a pick, which must refer to something. -/
def renderPick (misuse : (α : Type) → Draw σ α) (nested : Text → Draw σ Text)
    (selector : Selector) (renderings : List (Draw σ Text)) (pick : Pick) : Draw σ Text :=
  match selector.selected? pick with
  | some (.template _) => do
    let rendering ← itemAt misuse renderings pick.option
    rendering
  | some (.value text) => nested text
  | none => misuse Text

/-- What refers to an option is rendered as the option, or as its value. -/
theorem renderPick_of_refers {renderings : List (Draw σ Text)}
    (same : renderings.length = options.length) {pick : Pick} {option : Weighted Template}
    (refers : Refers provider options selector pick option) :
    renderPick misuse nested selector renderings pick =
      Sampling.renderPick nested selector renderings pick := by
  have inside : pick.option < renderings.length := by
    rw [same]
    exact (List.getElem?_eq_some_iff.1 refers.here).1
  have rendering := List.getElem?_eq_getElem inside
  unfold renderPick Sampling.renderPick
  by_cases bare : ∃ name, IsBareWildcard name option.value
  · obtain ⟨name, own⟩ := bare
    obtain ⟨index, text, -, -, selected⟩ := refers.ofValue name own
    rw [selected]
  · rw [refers.ofTemplate (not_exists.1 bare)]
    dsimp only
    rw [itemAt_of rendering, rendering, pure_bind, Option.getD_some]

end Checked

/-- No pick dangles.  If the weights of the options have a finite sum, then there are as
many picks as asked for and each refers to an option that has weight, or to one of its
values; there are none if nothing can be selected.  Nothing else fails than the source.
What invalid requests lead to, a pick that refers to nothing among them, does not matter. -/
theorem picks_refer (finite : ¬ Overflows provider options) :
    ∃ selector, Selector.ofOptions provider options = .ok selector ∧
      (∀ (count : Nat) (source : σ),
        (NothingSelectable provider options →
          Draw.outcome (selector.picks count) source = (.ok [], source)) ∧
        (¬ NothingSelectable provider options →
          match Draw.outcome (selector.picks count) source with
          | (.ok picks, _) => picks.length = count ∧
            ∀ pick ∈ picks, ∃ option, Refers provider options selector pick option
          | (.error e, rest) => e = .exhausted ∧ WordSource.Dry rest)) ∧
      ∀ (misuse : (α : Type) → Draw σ α) (nested : Text → Draw σ Text)
        (renderings : List (Draw σ Text)) (least most : Nat),
        renderings.length = options.length →
          Collector.collect (Checked.pick? misuse selector)
            (Checked.renderPick misuse nested selector renderings) least most =
          Collector.collect selector.pick? (renderPick nested selector renderings)
            least most := by
  cases built : Selector.ofOptions provider options with
  | error e => exact absurd (ofOptions_eq_error_iff.1 built).2 finite
  | ok selector =>
    refine ⟨selector, rfl, fun count source => ⟨fun nothing => ?_, fun some => ?_⟩, ?_⟩
    · rw [picks_of_nothing built nothing]
      rfl
    · have ends : Ends (selector.picks count : Draw σ (List Pick)) _
          fun e rest => e = .exhausted ∧ WordSource.Dry rest :=
        ends_picks (fun _ dry => ⟨rfl, dry⟩) built some count
      rcases ended : Draw.outcome (selector.picks count) source with ⟨e | picks, rest⟩
      · exact ends.allowed ended
      · exact ends.kept ended
    · intro misuse nested renderings least most same
      rw [Checked.pick?_eq built]
      have ends : Ends (selector.pick? : Draw σ (Option Pick)) _ fun _ _ => True :=
        ends_pick (fun _ _ => trivial) built
      refine collect_congr (ends.mono ?_ fun _ _ => id) least most
      rintro found ⟨refers, -⟩ pick rfl
      obtain ⟨option, refers⟩ := refers pick rfl
      exact Checked.renderPick_of_refers same refers

/-- The wildcard with values is in a sequence; the one without any is never picked. -/
theorem picks_refer_wrapped :
    let provider : Provider := fun name =>
      if name.isEmpty then [] else ["x".toList, "y".toList]
    let options : List (Weighted Template) :=
      [⟨Binary64.one, .literal "a".toList⟩, ⟨Binary64.one, .sequence [.wildcard "__c__".toList] []⟩,
        ⟨Binary64.one, .wildcard []⟩, ⟨⟨0⟩, .literal "z".toList⟩]
    let source := Script.ofWords [5, 0x8000000000000000, 0x8000000000000000]
    ¬ Overflows provider options ∧ ∃ selector,
      Selector.ofOptions provider options = .ok selector ∧
        (Draw.outcome (selector.picks 2) source).1 = .ok [⟨0, none⟩, ⟨1, some 1⟩] ∧
        ∀ pick ∈ [Pick.mk 0 none, Pick.mk 1 (some 1)], ∃ option,
          Refers provider options selector pick option := by
  intro provider options source
  have finite : ¬ Overflows provider options := by
    rintro ⟨-, infinite⟩
    revert infinite
    decide +kernel
  have some : ¬ NothingSelectable provider options := by
    rintro (⟨option, member, -, invalid⟩ | zero)
    · revert invalid
      revert option
      decide +kernel
    · have own := zero _ List.mem_cons_self nofun
      revert own
      decide +kernel
  obtain ⟨selector, built, ends, -⟩ := picks_refer (σ := Script) finite
  have drawn : (Selector.ofOptions provider options).map (fun selector =>
      (Draw.outcome (selector.picks 2) source).1) = .ok (.ok [⟨0, none⟩, ⟨1, Option.some 1⟩]) := by
    decide +kernel
  rw [built] at drawn
  have picks : (Draw.outcome (selector.picks 2) source).1 = _ := Except.ok.inj drawn
  have refer := (ends 2 source).2 some
  refine ⟨finite, selector, built, picks, ?_⟩
  rcases ended : Draw.outcome (selector.picks 2) source with ⟨found, rest⟩
  rw [ended] at picks refer
  obtain rfl := picks
  exact refer.2

end Sampling

end PromptTemplate
