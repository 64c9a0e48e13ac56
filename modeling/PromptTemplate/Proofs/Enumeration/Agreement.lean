/-
# PromptTemplate.Proofs.Enumeration.Agreement -- prompts are the plain renderings

Whenever the plain list of renderings exists, the lazy one holds no error and has the
same first occurrences (`Agrees`).  This is kept by every operation of an enumeration
-- joining, selecting, reading the values of a wildcard one level deeper -- so it holds
of every template (`expand_agrees`), by induction over the tree and, for the values of
wildcards, over the levels that are left.

So the prompts are the first of the plain renderings, each where it comes first.
-/
import PromptTemplate.Proofs.Enumeration.Picks

set_option autoImplicit false

namespace PromptTemplate.Enumeration

open Plain

/-- The lazy renderings hold no error and have the first occurrences of the list. -/
def Agrees (stream : Renderings) (texts : List Text) : Prop :=
  ∃ values, stream.toList = values.map .ok ∧ SameFirsts values texts

/-! ## Operations -/

/-- Joining in front of what agrees: the choices of a list with one more row. -/
theorem agrees_crossJoin {separator : Text} {heads : Renderings} {tails : Unit → Renderings}
    {row : List Text} {rest : List (List Text)} (head : Agrees heads row)
    (tail : Agrees (tails ()) ((choices rest).map (Text.joinNonEmpty separator))) :
    Agrees (crossJoin separator heads tails)
      ((choices (row :: rest)).map (Text.joinNonEmpty separator)) := by
  obtain ⟨fronts, frontsList, sameFronts⟩ := head
  obtain ⟨backs, backsList, sameBacks⟩ := tail
  refine ⟨fronts.flatMap fun front => backs.map (Text.joinPair separator front), ?_, ?_⟩
  · rw [crossJoin, LazyList.toList_flatMap, frontsList, List.flatMap_map, List.map_flatMap]
    apply List.flatMap_congr
    intro front _
    rw [LazyList.toList_map, backsList, List.map_map, List.map_map]
    rfl
  · rw [choices, List.map_flatMap]
    apply sameFronts.flatMap
    intro front _
    have joined : ((choices rest).map (front :: ·)).map (Text.joinNonEmpty separator) =
        ((choices rest).map (Text.joinNonEmpty separator)).map (Text.joinPair separator front) := by
      simp only [List.map_map]
      apply List.map_congr_left
      intro texts _
      simp only [Function.comp, Text.joinNonEmpty_eq_foldr, List.foldr_cons]
    rw [joined]
    exact sameBacks.map _

theorem agrees_map {stream : Renderings} {texts : List Text} (f : Text → Text)
    (agrees : Agrees stream texts) :
    Agrees (stream.map fun text => text.map f) (texts.map f) := by
  obtain ⟨values, all, same⟩ := agrees
  refine ⟨values.map f, ?_, same.map f⟩
  rw [LazyList.toList_map, all, List.map_map, List.map_map]
  rfl

theorem agrees_flatMap {nested : Text → Renderings} {plain : Text → Listing}
    (each : ∀ value texts, plain value = .ok texts → Agrees (nested value) texts)
    {values : List Text} {rows : List (List Text)} (listed : values.mapM plain = .ok rows) :
    Agrees ((LazyList.ofList values).flatMap nested) rows.flatten := by
  induction values generalizing rows with
  | nil =>
    cases listed
    exact ⟨[], rfl, .refl _⟩
  | cons value values ih =>
    rw [List.mapM_cons] at listed
    obtain ⟨row, first, listed⟩ := except_bind_eq_ok.1 listed
    obtain ⟨others, rest, same⟩ := except_bind_eq_ok.1 listed
    obtain rfl := Except.ok.inj same
    obtain ⟨front, frontList, sameFront⟩ := each value row first
    obtain ⟨back, backList, sameBack⟩ := ih rest
    refine ⟨front ++ back, ?_, sameFront.append sameBack⟩
    rw [LazyList.toList_flatMap, LazyList.toList_ofList] at backList ⊢
    rw [List.flatMap_cons, frontList, backList, List.map_append]

theorem exists_listed {options : List (Unit → Renderings)} {rows : List (List Text)}
    (each : List.Forall₂ (fun option row => Agrees (option ()) row) options rows) :
    ∃ lists, Listed options lists ∧ List.Forall₂ SameFirsts lists rows := by
  induction each with
  | nil => exact ⟨[], .nil, .nil⟩
  | cons head _ ih =>
    obtain ⟨values, all, firsts⟩ := head
    obtain ⟨lists, listed, same⟩ := ih
    exact ⟨values :: lists, .cons all listed, .cons firsts same⟩

/-- A variant agrees when its options do, although it drops repeated renderings of an
option before it selects. -/
theorem agrees_variant {options : List (Unit → Renderings)} {rows : List (List Text)}
    (each : List.Forall₂ (fun option row => Agrees (option ()) row) options rows)
    (range : PickRange) (joiner : Text) (nonempty : options ≠ []) :
    Agrees (variant options range joiner)
      ((selectionsWithin rows range).map (Text.joinAll joiner)) := by
  obtain ⟨lists, listed, same⟩ := exists_listed each
  refine ⟨(selectionsWithin lists range).eraseDups.map (Text.joinAll joiner), ?_, ?_⟩
  · rw [toList_variant nonempty listed, List.map_map]
    rfl
  · apply SameFirsts.map
    exact (SameFirsts.eraseDups _).trans (.selectionsWithin same range)

/-! ## Templates -/

section Template

variable {provider : Provider} {nested : Text → Renderings} {plain : Text → Listing}

mutual

/-- The lazy enumeration of a template agrees with the plain one if that of the values
does. -/
theorem expand_agrees
    (each : ∀ value texts, plain value = .ok texts → Agrees (nested value) texts) :
    ∀ (template : Template) (texts : List Text),
      renderings provider plain template = .ok texts →
        Agrees (expand provider nested template) texts
  | .literal text, texts, listed => by
    rw [renderings] at listed
    cases listed
    exact ⟨[text], rfl, .refl _⟩
  | .wildcard name, texts, listed => by
    rw [renderings] at listed
    obtain ⟨rows, found, same⟩ := except_bind_eq_ok.1 listed
    obtain rfl := Except.ok.inj same
    rw [expand]
    exact agrees_flatMap each found
  | .sequence parts separator, texts, listed => by
    rw [renderings] at listed
    obtain ⟨rows, found, same⟩ := except_bind_eq_ok.1 listed
    obtain rfl := Except.ok.inj same
    have joined := agrees_map Text.trim (expandParts_agrees each separator parts rows found)
    rw [List.map_map] at joined
    rw [expand]
    exact joined
  | .variant options range joiner, texts, listed => by
    rw [renderings] at listed
    obtain ⟨rows, found, same⟩ := except_bind_eq_ok.1 listed
    have options_agree := expandOptions_agrees each options rows found
    rw [expand]
    cases options with
    | nil =>
      obtain rfl := Except.ok.inj same
      exact ⟨[[]], rfl, .refl _⟩
    | cons option rest =>
      obtain rfl := Except.ok.inj same
      refine agrees_variant options_agree range joiner ?_
      rw [expandOptions]
      exact List.cons_ne_nil _ _

theorem expandParts_agrees
    (each : ∀ value texts, plain value = .ok texts → Agrees (nested value) texts)
    (separator : Text) :
    ∀ (parts : List Template) (rows : List (List Text)),
      partRenderings provider plain parts = .ok rows →
        Agrees (expandParts provider nested separator parts)
          ((choices rows).map (Text.joinNonEmpty separator))
  | [], rows, listed => by
    rw [partRenderings] at listed
    cases listed
    exact ⟨[[]], rfl, .refl _⟩
  | part :: rest, rows, listed => by
    rw [partRenderings] at listed
    obtain ⟨row, first, listed⟩ := except_bind_eq_ok.1 listed
    obtain ⟨others, found, same⟩ := except_bind_eq_ok.1 listed
    obtain rfl := Except.ok.inj same
    rw [expandParts]
    exact agrees_crossJoin (expand_agrees each part row first)
      (expandParts_agrees each separator rest others found)

theorem expandOptions_agrees
    (each : ∀ value texts, plain value = .ok texts → Agrees (nested value) texts) :
    ∀ (options : List (Weighted Template)) (rows : List (List Text)),
      optionRenderings provider plain options = .ok rows →
        List.Forall₂ (fun option row => Agrees (option ()) row)
          (expandOptions provider nested options) rows
  | [], rows, listed => by
    rw [optionRenderings] at listed
    cases listed
    exact .nil
  | ⟨_, value⟩ :: rest, rows, listed => by
    rw [optionRenderings] at listed
    obtain ⟨row, first, listed⟩ := except_bind_eq_ok.1 listed
    obtain ⟨others, found, same⟩ := except_bind_eq_ok.1 listed
    obtain rfl := Except.ok.inj same
    rw [expandOptions]
    exact .cons (expand_agrees each value row first) (expandOptions_agrees each rest others found)

end

end Template

theorem expandValue_agrees (provider : Provider) (levels : Nat) (value : Text) (texts : List Text)
    (listed : valueRenderings provider levels value = .ok texts) :
    Agrees (expandValue provider levels value) texts := by
  induction levels generalizing value texts with
  | zero => cases listed
  | succ levels ih =>
    rw [valueRenderings] at listed
    rw [expandValue]
    cases read : Template.parse value with
    | error e =>
      rw [read] at listed
      cases listed
    | ok template =>
      rw [read] at listed
      exact expand_agrees ih template texts listed

theorem expandAt_agrees {provider : Provider} {depth : Nat} {template : Template}
    {texts : List Text} (listed : renderingsAt provider depth template = .ok texts) :
    Agrees (expandAt provider depth template) texts :=
  expand_agrees (expandValue_agrees provider (maxDepth - depth)) template texts listed

/-- The prompts are the first of the plain renderings, each where it comes first. -/
theorem promptsOf_eq_take (provider : Provider) (template : Template) (most : Nat)
    (texts : List Text) (listed : renderingsAt provider 0 template = .ok texts) :
    promptsOf provider template most = .ok (texts.eraseDups.take most) := by
  obtain ⟨values, all, same⟩ := expandAt_agrees listed
  unfold promptsOf
  split
  · rename_i none
    rw [none, List.take_zero]
  · rw [LazyList.takeOk_of_toList most (LazyList.toList_distinct all), same]

/-- Two wildcard values, one of them a variant, share texts with a second option. -/
theorem promptsOf_eq_take_shared :
    let provider : Provider := fun name => if name = ['c'] then [['r'], "{a|r}".toList] else []
    let template : Template := .sequence [.literal ['x'], .variant
      [⟨.one, .wildcard ['c']⟩, ⟨.one, .literal ['a']⟩] ⟨1, 2, by decide, by decide⟩ ['+']] [' ']
    let texts := ["x r", "x a", "x r", "x a", "x r+a", "x a+r", "x a+r", "x r+a", "x r+a", "x r+a",
      "x a+r", "x a+r"].map String.toList
    renderingsAt provider 0 template = .ok texts ∧
      promptsOf provider template 3 = .ok (texts.eraseDups.take 3) := by
  intro provider template texts
  have listed : renderingsAt provider 0 template = .ok texts := by decide +kernel
  exact ⟨listed, promptsOf_eq_take provider template 3 texts listed⟩

end PromptTemplate.Enumeration
