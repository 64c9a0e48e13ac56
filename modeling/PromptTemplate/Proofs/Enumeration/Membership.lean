/-
# PromptTemplate.Proofs.Enumeration.Membership -- what a list of renderings holds

For a list of renderings without an error, what it is made of is without an error too,
and the renderings of the parts give renderings of the whole: a joined sequence, the
values of a wildcard, and every selection of the texts of the options that the range
allows (`ok_mem_variant`).  The tails of a sequence are looked at only if there is a
head.
-/
import PromptTemplate.Proofs.Enumeration.Picks
import PromptTemplate.Proofs.Text.Trimming

set_option autoImplicit false

namespace PromptTemplate.Enumeration

open Plain

/-! ## Changed results -/

section Map

variable {ε α β : Type} {f : α → β} {xs : LazyList (Except ε α)}

theorem error_mem_map_iff {e : ε} :
    .error e ∈ (xs.map fun result => result.map f).toList ↔ .error e ∈ xs.toList := by
  rw [LazyList.toList_map, List.mem_map]
  constructor
  · rintro ⟨result, member, same⟩
    cases result with
    | error e' => exact Except.error.inj same ▸ member
    | ok a => cases same
  · intro member
    exact ⟨.error e, member, rfl⟩

theorem errorFree_map_iff : (xs.map fun result => result.map f).ErrorFree ↔ xs.ErrorFree :=
  forall_congr' fun _ => not_congr error_mem_map_iff

theorem ok_mem_map {a : α} (member : .ok a ∈ xs.toList) :
    .ok (f a) ∈ (xs.map fun result => result.map f).toList := by
  rw [LazyList.toList_map]
  exact List.mem_map_of_mem (f := fun result => result.map f) member

end Map

/-! ## Sequences -/

section CrossJoin

variable {separator : Text} {heads : Renderings} {tails : Unit → Renderings}

theorem errorFree_heads (free : (crossJoin separator heads tails).ErrorFree) :
    heads.ErrorFree := by
  intro e member
  refine free e ?_
  rw [crossJoin, LazyList.toList_flatMap, List.mem_flatMap]
  exact ⟨.error e, member, List.mem_singleton_self _⟩

/-- The tails are only reached when there is a head. -/
theorem errorFree_tails (free : (crossJoin separator heads tails).ErrorFree) {head : Text}
    (first : .ok head ∈ heads.toList) : (tails ()).ErrorFree := by
  intro e member
  refine free e ?_
  rw [crossJoin, LazyList.toList_flatMap, List.mem_flatMap]
  exact ⟨.ok head, first, error_mem_map_iff.2 member⟩

theorem ok_mem_crossJoin {head tail : Text} (first : .ok head ∈ heads.toList)
    (rest : .ok tail ∈ (tails ()).toList) :
    .ok (Text.joinPair separator head tail) ∈ (crossJoin separator heads tails).toList := by
  rw [crossJoin, LazyList.toList_flatMap, List.mem_flatMap]
  exact ⟨.ok head, first, ok_mem_map rest⟩

end CrossJoin

/-! ## Wildcards -/

section Values

variable {nested : Text → Renderings} {values : List Text} {value : Text}

theorem mem_flatMap_values {result : Except GenerationError Text} (isValue : value ∈ values)
    (member : result ∈ (nested value).toList) :
    result ∈ ((LazyList.ofList values).flatMap nested).toList := by
  rw [LazyList.toList_flatMap, LazyList.toList_ofList, List.mem_flatMap]
  exact ⟨value, isValue, member⟩

theorem errorFree_value (free : ((LazyList.ofList values).flatMap nested).ErrorFree)
    (isValue : value ∈ values) : (nested value).ErrorFree :=
  fun e member => free e (mem_flatMap_values isValue member)

end Values

section BareWildcard

variable {provider : Provider} {nested : Text → Renderings} {template : Template} {name : Text}

/-- A template that is nothing but a wildcard has the renderings of the wildcard, as far
as they are trimmed. -/
theorem ok_mem_of_bareWildcard? (bare : template.bareWildcard? = some name) {text : Text}
    (trimmed : Text.trim text = text)
    (member : .ok text ∈ ((LazyList.ofList (provider.resolve name)).flatMap nested).toList) :
    .ok text ∈ (expand provider nested template).toList := by
  fun_induction Template.bareWildcard? template with
  | case1 own =>
    obtain rfl := Option.some.inj bare
    rwa [expand]
  | case2 part separator ih =>
    have joined : .ok (Text.joinPair separator text []) ∈
        (expandParts provider nested separator [part]).toList := by
      rw [expandParts, expandParts]
      exact ok_mem_crossJoin (ih bare) (List.mem_singleton_self _)
    rw [Text.joinPair_nil_right] at joined
    rw [expand]
    simpa only [trimmed] using ok_mem_map (f := Text.trim) joined
  | case3 => cases bare

theorem errorFree_of_bareWildcard? (bare : template.bareWildcard? = some name)
    (free : (expand provider nested template).ErrorFree) :
    ((LazyList.ofList (provider.resolve name)).flatMap nested).ErrorFree := by
  fun_induction Template.bareWildcard? template with
  | case1 own =>
    obtain rfl := Option.some.inj bare
    rwa [expand] at free
  | case2 part separator ih =>
    rw [expand, expandParts] at free
    exact ih bare (errorFree_heads (errorFree_map_iff.1 free))
  | case3 => cases bare

end BareWildcard

/-! ## Variants -/

section Variant

variable {options : List (Unit → Renderings)} {range : PickRange} {joiner : Text}

/-- All options are enumerated to their ends before anything is selected. -/
theorem errorFree_of_optionValues {rows : List (List Text)}
    (found : optionValues options = .ok rows) : ∀ option ∈ options, (option ()).ErrorFree := by
  unfold optionValues at found
  induction options generalizing rows with
  | nil => exact fun _ member => absurd member List.not_mem_nil
  | cons first options ih =>
    rw [List.mapM_cons] at found
    obtain ⟨row, own, found⟩ := except_bind_eq_ok.1 found
    obtain ⟨others, rest, -⟩ := except_bind_eq_ok.1 found
    intro option member
    rcases List.mem_cons.1 member with rfl | later
    · cases values : (option ()).collect with
      | error e =>
        rw [values] at own
        cases own
      | ok texts => exact LazyList.errorFree_of_collect values
    · exact ih rest option later

/-- A variant looks at all the renderings of every option. -/
theorem errorFree_options (free : (variant options range joiner).ErrorFree) :
    ∀ option ∈ options, (option ()).ErrorFree := by
  have ordered := range.least_le_most
  have positive := range.one_le_least
  intro option member
  have some : options.isEmpty = false := by
    simpa using List.ne_nil_of_mem member
  rw [variant, some, if_neg Bool.false_ne_true, errorFree_map_iff, picks,
    LazyList.errorFree_distinct_iff] at free
  simp only [LazyList.ErrorFree, LazyList.toList_append, List.mem_append, not_or] at free
  by_cases single : range.least = 1
  · intro e inside
    refine (free e).1 ?_
    rw [if_pos single, singlePicks, LazyList.toList_flatMap, LazyList.toList_ofList,
      List.mem_flatMap]
    exact ⟨option, member, error_mem_map_iff.2 inside⟩
  · cases found : optionValues options with
    | ok rows => exact errorFree_of_optionValues found option member
    | error e =>
      refine absurd ?_ (free e).2
      rw [multiplePicks, if_neg (by omega), found]
      exact List.mem_singleton_self _

/-- Every selection of texts of the options that the range allows is a rendering. -/
theorem ok_mem_variant (free : (variant options range joiner).ErrorFree) {picked : List Text}
    (lower : range.least ≤ picked.length) (upper : picked.length ≤ range.most)
    (nodup : picked.Nodup)
    (inside : ∀ text ∈ picked, ∃ option ∈ options, .ok text ∈ (option ()).toList) :
    .ok (Text.joinAll joiner picked) ∈ (variant options range joiner).toList := by
  let rows := options.map fun option => (option ()).values
  have listed : Listed options rows :=
    List.forall₂_map_right_iff.2 (List.forall₂_same.2 fun option member =>
      (errorFree_options free option member).toList_eq)
  have fromRows : ∀ text ∈ picked, text ∈ rows.flatten := by
    intro text member
    obtain ⟨option, isOption, rendered⟩ := inside text member
    refine List.mem_flatten.2 ⟨_, List.mem_map_of_mem isOption, ?_⟩
    exact (LazyList.ok_mem_toList_iff (errorFree_options free option isOption) text).1 rendered
  have selected : picked ∈ selectionsWithin rows range :=
    mem_selectionsWithin_iff.2 ⟨⟨lower, upper⟩, nodup, fromRows⟩
  have nonempty : options.isEmpty = false := by
    have positive := range.one_le_least
    obtain ⟨text, member⟩ := List.exists_mem_of_length_pos (Nat.lt_of_lt_of_le positive lower)
    obtain ⟨option, isOption, -⟩ := inside text member
    simpa using List.ne_nil_of_mem isOption
  rw [variant, nonempty, if_neg Bool.false_ne_true]
  refine ok_mem_map (f := Text.joinAll joiner) ?_
  rw [toList_picks listed]
  exact List.mem_map_of_mem (List.mem_eraseDups.2 selected)

end Variant

/-! ## Wildcard values -/

/-- The renderings of a wildcard value are trimmed. -/
theorem trim_of_mem_expandValue {provider : Provider} {levels : Nat} {value text : Text}
    (member : .ok text ∈ (expandValue provider levels value).toList) : Text.trim text = text := by
  cases levels with
  | zero => cases List.mem_singleton.1 member
  | succ levels =>
    rw [expandValue] at member
    split at member
    · cases List.mem_singleton.1 member
    · rename_i template read
      obtain ⟨parts, rfl⟩ := Template.exists_parts_of_parse read
      rw [Template.ofParts, expand, LazyList.toList_map] at member
      obtain ⟨result, -, same⟩ := List.mem_map.1 member
      cases result with
      | error e => cases same
      | ok inner =>
        obtain rfl := Except.ok.inj same
        exact Text.trim_trim inner

end PromptTemplate.Enumeration
