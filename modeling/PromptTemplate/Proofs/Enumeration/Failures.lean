/-
# PromptTemplate.Proofs.Enumeration.Failures -- where an error in a list comes from

An error among the renderings of a template is an error among the renderings of a value
that the template refers to; nothing else in a template fails.  So it lies at the end of
a chain of references, level by level (`failsBelow_of_mem_expandAt`).

A list may also begin with its error (`Halts`).  Then everything that is made of the list
begins with the error, and under a cap that allows anything there is nothing else.
-/
import PromptTemplate.Proofs.Enumeration.Membership
import PromptTemplate.Proofs.References

set_option autoImplicit false

namespace PromptTemplate

namespace LazyList

variable {ε α : Type}

theorem error_mem_of_collect {xs : LazyList (Except ε α)} {e : ε}
    (failed : xs.collect = .error e) : .error e ∈ xs.toList := by
  induction xs with
  | nil => cases failed
  | cons result tail ih =>
    cases result with
    | error own =>
      obtain rfl := Except.error.inj failed
      exact List.mem_cons_self
    | ok v =>
      rw [collect] at failed
      cases rest : (tail ()).collect with
      | error e' =>
        rw [rest] at failed
        obtain rfl := Except.error.inj failed
        exact List.mem_cons_of_mem _ (ih () rest)
      | ok vs =>
        rw [rest] at failed
        cases failed

end LazyList

namespace Enumeration

open Template (StandsIn)

variable {provider : Provider} {nested : Text → Renderings}

/-! ## Where an error comes from -/

theorem error_mem_crossJoin {separator : Text} {heads : Renderings} {tails : Unit → Renderings}
    {e : GenerationError} (member : .error e ∈ (crossJoin separator heads tails).toList) :
    .error e ∈ heads.toList ∨ .error e ∈ (tails ()).toList := by
  rw [crossJoin, LazyList.toList_flatMap, List.mem_flatMap] at member
  obtain ⟨head, inside, behind⟩ := member
  cases head with
  | error own =>
    obtain rfl := Except.error.inj (List.mem_singleton.1 behind)
    exact .inl inside
  | ok head => exact .inr (error_mem_map_iff.1 behind)

section Variant

variable {options : List (Unit → Renderings)} {e : GenerationError}

theorem error_mem_of_optionValues (failed : optionValues options = .error e) :
    ∃ option ∈ options, .error e ∈ (option ()).toList := by
  unfold optionValues at failed
  induction options with
  | nil => cases failed
  | cons first options ih =>
    rw [List.mapM_cons, except_bind_eq_error] at failed
    rcases failed with own | ⟨row, -, failed⟩
    · cases values : (first ()).collect with
      | error e' =>
        rw [values] at own
        obtain rfl := Except.error.inj own
        exact ⟨first, List.mem_cons_self, LazyList.error_mem_of_collect values⟩
      | ok texts =>
        rw [values] at own
        cases own
    · rcases except_bind_eq_error.1 failed with rest | ⟨_, -, impossible⟩
      · obtain ⟨option, member, inside⟩ := ih rest
        exact ⟨option, List.mem_cons_of_mem _ member, inside⟩
      · cases impossible

theorem error_mem_singlePicks (member : .error e ∈ (singlePicks options).toList) :
    ∃ option ∈ options, .error e ∈ (option ()).toList := by
  rw [singlePicks, LazyList.toList_flatMap, LazyList.toList_ofList, List.mem_flatMap] at member
  obtain ⟨option, inside, found⟩ := member
  exact ⟨option, inside, error_mem_map_iff.1 found⟩

theorem error_mem_multiplePicks {least most : Nat}
    (member : .error e ∈ (multiplePicks options least most).toList) :
    ∃ option ∈ options, .error e ∈ (option ()).toList := by
  unfold multiplePicks at member
  split at member
  · cases member
  · split at member
    · rename_i failed
      obtain rfl := Except.error.inj (List.mem_singleton.1 member)
      exact error_mem_of_optionValues failed
    · rw [LazyList.toList_map] at member
      obtain ⟨_, -, impossible⟩ := List.mem_map.1 member
      cases impossible

/-- An error of a variant is that of an option. -/
theorem error_mem_variant {range : PickRange} {joiner : Text}
    (member : .error e ∈ (variant options range joiner).toList) :
    ∃ option ∈ options, .error e ∈ (option ()).toList := by
  unfold variant at member
  split at member
  · cases List.mem_singleton.1 member
  · rw [error_mem_map_iff, picks, LazyList.distinct, LazyList.error_mem_distinctFrom_iff,
      LazyList.toList_append, List.mem_append] at member
    rcases member with single | multiple
    · split at single
      · exact error_mem_singlePicks single
      · cases single
    · exact error_mem_multiplePicks multiple

end Variant

/-- An error of a sequence is that of a part. -/
theorem error_mem_expandParts {e : GenerationError} {separator : Text} {parts : List Template}
    (member : .error e ∈ (expandParts provider nested separator parts).toList) :
    ∃ part ∈ parts, .error e ∈ (expand provider nested part).toList := by
  induction parts with
  | nil =>
    rw [expandParts] at member
    cases List.mem_singleton.1 member
  | cons part rest ih =>
    rw [expandParts] at member
    rcases error_mem_crossJoin member with own | later
    · exact ⟨part, List.mem_cons_self, own⟩
    · obtain ⟨other, isPart, found⟩ := ih later
      exact ⟨other, List.mem_cons_of_mem _ isPart, found⟩

/-- An error comes from a value that the template refers to. -/
theorem error_mem_expand {e : GenerationError} {template : Template}
    (member : .error e ∈ (expand provider nested template).toList) :
    ∃ name value, StandsIn (.wildcard name) template ∧ value ∈ provider.resolve name ∧
      .error e ∈ (nested value).toList := by
  induction template with
  | literal text =>
    rw [expand] at member
    cases List.mem_singleton.1 member
  | wildcard name =>
    rw [expand, LazyList.toList_flatMap, LazyList.toList_ofList, List.mem_flatMap] at member
    obtain ⟨value, isValue, inside⟩ := member
    exact ⟨name, value, .itself, isValue, inside⟩
  | sequence parts separator ih =>
    rw [expand] at member
    obtain ⟨part, isPart, found⟩ := error_mem_expandParts (error_mem_map_iff.1 member)
    obtain ⟨name, value, stands, isValue, inside⟩ := ih part isPart found
    exact ⟨name, value, .part isPart stands, isValue, inside⟩
  | variant options range joiner ih =>
    rw [expand, expandOptions_eq_map] at member
    obtain ⟨_, isRow, found⟩ := error_mem_variant member
    obtain ⟨option, isOption, rfl⟩ := List.mem_map.1 isRow
    obtain ⟨name, value, stands, isValue, inside⟩ := ih option isOption found
    exact ⟨name, value, .option isOption stands, isValue, inside⟩

/-- The induction is on the levels that are left below the value; the template is
whatever refers to it. -/
theorem failsBelow_of_mem_expandValue {levels : Nat} {template : Template} {name value : Text}
    {e : GenerationError} (stands : StandsIn (.wildcard name) template)
    (isValue : value ∈ provider.resolve name)
    (member : .error e ∈ (expandValue provider levels value).toList) :
    FailsBelow provider levels template e := by
  induction levels generalizing template name value with
  | zero =>
    obtain rfl := Except.error.inj (List.mem_singleton.1 member)
    exact failsBelow_limit stands isValue
  | succ levels ih =>
    rw [expandValue] at member
    split at member
    · rename_i failed
      obtain rfl := Except.error.inj (List.mem_singleton.1 member)
      exact failsBelow_parse stands isValue failed levels
    · rename_i inner read
      obtain ⟨_, _, standsInside, isInnerValue, inside⟩ := error_mem_expand member
      exact .of_value stands isValue read (ih standsInside isInnerValue inside)

theorem failsBelow_of_mem_expandAt {depth : Nat} {template : Template} {e : GenerationError}
    (member : .error e ∈ (expandAt provider depth template).toList) :
    FailsBelow provider (maxDepth - depth) template e := by
  obtain ⟨_, _, stands, isValue, inside⟩ := error_mem_expand member
  exact failsBelow_of_mem_expandValue stands isValue inside

/-! ## Lists that begin with their error -/

/-- The list begins with an error that says that a value is nested too deep. -/
def Halts {α : Type} (xs : LazyList (Except GenerationError α)) : Prop :=
  ∃ value tail, xs = .cons (.error (.recursionLimit maxDepth value)) tail

namespace Halts

variable {α β : Type}

theorem append {xs : LazyList (Except GenerationError α)} (halts : Halts xs)
    (ys : Unit → LazyList (Except GenerationError α)) : Halts (xs.append ys) := by
  obtain ⟨value, tail, rfl⟩ := halts
  exact ⟨value, _, rfl⟩

theorem map {xs : LazyList (Except GenerationError α)} (halts : Halts xs) (f : α → β) :
    Halts (xs.map fun result => result.map f) := by
  obtain ⟨value, tail, rfl⟩ := halts
  exact ⟨value, _, rfl⟩

theorem crossJoin {heads : Renderings} (halts : Halts heads) (separator : Text)
    (tails : Unit → Renderings) : Halts (crossJoin separator heads tails) := by
  obtain ⟨value, tail, rfl⟩ := halts
  exact ⟨value, _, rfl⟩

/-- A single head leaves what is behind it in its place. -/
theorem crossJoin_singleton {tails : Unit → Renderings} (halts : Halts (tails ()))
    (separator text : Text) :
    Halts (Enumeration.crossJoin separator (.singleton (.ok text)) tails) := by
  rw [Enumeration.crossJoin, LazyList.singleton, LazyList.flatMap]
  exact (halts.map _).append _

theorem wildcard {values : List Text} (some : values ≠ [])
    (each : ∀ value ∈ values, Halts (nested value)) :
    Halts ((LazyList.ofList values).flatMap nested) := by
  cases values with
  | nil => exact absurd rfl some
  | cons value rest =>
    rw [LazyList.ofList, LazyList.flatMap]
    exact (each value List.mem_cons_self).append _

/-- Literals in front of a part do not hide that the part halts. -/
theorem expandParts (separator : Text) (texts : List Text) {part : Template}
    (halts : Halts (expand provider nested part)) (rest : List Template) :
    Halts (expandParts provider nested separator (texts.map .literal ++ part :: rest)) := by
  induction texts with
  | nil =>
    rw [List.map_nil, List.nil_append, Enumeration.expandParts]
    exact halts.crossJoin separator _
  | cons text texts ih =>
    rw [List.map_cons, List.cons_append, Enumeration.expandParts, expand]
    exact crossJoin_singleton ih separator text

/-- Where the enumeration begins with the limit error there is no prompt. -/
theorem promptsOf {template : Template} (halts : Halts (expandAt provider 0 template))
    {most : Nat} (positive : 0 < most) :
    ∃ value, promptsOf provider template most = .error (.recursionLimit maxDepth value) := by
  obtain ⟨value, tail, begins⟩ := halts
  refine ⟨value, ?_⟩
  rw [Enumeration.promptsOf, if_neg (Nat.ne_of_gt positive), begins]
  cases most with
  | zero => exact absurd positive (Nat.lt_irrefl 0)
  | succ most => rfl

end Halts

end Enumeration

end PromptTemplate
