/-
# PromptTemplate.Proofs.Enumeration.Caps -- a cap only truncates

What is listed under a cap depends on the cap in one way only: there are values without
repetition, perhaps with an error behind them, and the cap takes the first of the values
or, where they are too few, runs into the error (`LazyList.capped`).  For a tree these are
the renderings in front of the first error, each where it comes first; for a template text
the template itself stands in for them when there are no renderings at all.

So a larger cap lists more of the same, what fails keeps failing, and an error behind the
last value that is asked for is never seen (`OnlyTruncates`).
-/
import PromptTemplate.Enumeration
import PromptTemplate.Proofs.Results
import Mathlib.Data.List.Nodup

set_option autoImplicit false

namespace PromptTemplate

/-! ## Listings under a cap -/

section Listing

variable {ε α : Type}

/-- A larger cap only lists more. -/
structure OnlyTruncates (listing : Nat → Except ε (List α)) : Prop where
  /-- What a cap lists starts with what a smaller one lists. -/
  take_of_ok : ∀ {n m : Nat} {found : List α}, n ≤ m → listing m = .ok found →
    listing n = .ok (found.take n)
  /-- What fails under a cap fails alike under a larger one. -/
  error_of_error : ∀ {n m : Nat} {e : ε}, n ≤ m → listing n = .error e → listing m = .error e
  /-- A cap that is not reached is no cap. -/
  ok_of_short : ∀ {n m : Nat} {found : List α}, n ≤ m → listing n = .ok found →
    found.length < n → listing m = .ok found
  nodup_of_ok : ∀ {n : Nat} {found : List α}, listing n = .ok found → found.Nodup
  length_le_of_ok : ∀ {n : Nat} {found : List α}, listing n = .ok found → found.length ≤ n

theorem onlyTruncates_error (e : ε) : OnlyTruncates fun _ => (.error e : Except ε (List α)) where
  take_of_ok := nofun
  error_of_error _ failed := failed
  ok_of_short := nofun
  nodup_of_ok := nofun
  length_le_of_ok := nofun

/-- A cap on distinct values only truncates. -/
theorem onlyTruncates_capped {values : List α} (nodup : values.Nodup) (failure : Option ε) :
    OnlyTruncates (LazyList.capped values failure) where
  take_of_ok := by
    intro n m found smaller listed
    obtain ⟨rfl, noError⟩ := LazyList.capped_eq_ok_iff.1 listed
    rw [LazyList.capped_eq_ok_iff, List.take_take, Nat.min_eq_left smaller]
    exact ⟨rfl, fun few => noError (Nat.lt_of_lt_of_le few smaller)⟩
  error_of_error := by
    intro n m e smaller failed
    obtain ⟨few, found⟩ := LazyList.capped_eq_error_iff.1 failed
    exact LazyList.capped_eq_error_iff.2 ⟨Nat.lt_of_lt_of_le few smaller, found⟩
  ok_of_short := by
    intro n m found smaller listed short
    obtain ⟨rfl, noError⟩ := LazyList.capped_eq_ok_iff.1 listed
    have few : values.length < n := by
      rw [List.length_take] at short
      omega
    rw [LazyList.capped_eq_ok_iff, List.take_of_length_le (Nat.le_of_lt few),
      List.take_of_length_le (by omega)]
    exact ⟨rfl, fun _ => noError few⟩
  nodup_of_ok := by
    intro n found listed
    obtain ⟨rfl, -⟩ := LazyList.capped_eq_ok_iff.1 listed
    exact nodup.sublist (List.take_sublist n values)
  length_le_of_ok := by
    intro n found listed
    obtain ⟨rfl, -⟩ := LazyList.capped_eq_ok_iff.1 listed
    exact List.length_take_le n values

end Listing

namespace Enumeration

variable {provider : Provider}

/-! ## Trees -/

/-- The renderings in front of the first error, each where it comes first, and that error
behind them. -/
theorem promptsOf_eq_capped (provider : Provider) (template : Template) :
    promptsOf provider template =
      LazyList.capped (expandAt provider 0 template).beforeError.eraseDups
        (expandAt provider 0 template).firstError? := by
  obtain ⟨values, same⟩ := LazyList.beforeError_distinct (expandAt provider 0 template)
  funext most
  unfold promptsOf
  split
  · rename_i none
    rw [none, LazyList.capped_zero]
  · rw [LazyList.takeOk_eq_capped, values, same]

theorem onlyTruncates_promptsOf (provider : Provider) (template : Template) :
    OnlyTruncates (promptsOf provider template) := by
  rw [promptsOf_eq_capped]
  exact onlyTruncates_capped (nodup_eraseDups _) _

/-! ## Template texts -/

theorem prompts_of_error {text : Text} {e : ParseError} (failed : Template.parse text = .error e) :
    prompts provider text = fun _ => .error (.parse e) := by
  funext most
  rw [prompts, failed]

theorem toList_eq_nil {stream : Renderings} (noValues : stream.beforeError.eraseDups = [])
    (noError : stream.firstError? = none) : stream.toList = [] := by
  rw [LazyList.toList_of_firstError? noError, List.map_eq_nil_iff]
  cases values : stream.beforeError with
  | nil => rfl
  | cons v rest =>
    rw [values, List.eraseDups_cons] at noValues
    cases noValues

/-- A template text without renderings has itself as its only prompt. -/
theorem prompts_of_nil {text : Text} {template : Template}
    (read : Template.parse text = .ok template)
    (nothing : (expandAt provider 0 template).toList = []) :
    prompts provider text = LazyList.capped [text] none := by
  have noResults : (expandAt provider 0 template).toList = ([] : List Text).map .ok := nothing
  obtain ⟨noValues, noError⟩ := LazyList.beforeError_of_values noResults
  have noPrompts : ∀ most, promptsOf provider template most = .ok [] := by
    intro most
    rw [promptsOf_eq_capped, noValues, noError, LazyList.capped_eq_ok_iff]
    exact ⟨List.take_nil.symm, fun _ => rfl⟩
  funext most
  rw [prompts, read]
  simp only [noPrompts]
  cases most with
  | zero => rfl
  | succ most =>
    rw [LazyList.capped_cons]
    cases most with
    | zero => rfl
    | succ most => rfl

/-- A template text with renderings, or an error in the place of the first, has the
prompts of its tree. -/
theorem prompts_of_ne_nil {text : Text} {template : Template}
    (read : Template.parse text = .ok template)
    (something : (expandAt provider 0 template).toList ≠ []) :
    prompts provider text = promptsOf provider template := by
  funext most
  rw [prompts, read]
  simp only
  cases listed : promptsOf provider template most with
  | error e => rfl
  | ok found =>
    have kept : ¬ (found.isEmpty && most ≠ 0) = true := by
      intro none
      obtain ⟨empty, positive⟩ := Bool.and_eq_true_iff.1 none
      obtain rfl := List.isEmpty_iff.1 empty
      rw [promptsOf_eq_capped] at listed
      obtain ⟨values, noError⟩ := LazyList.capped_eq_ok_iff.1 listed
      have noValues := (List.take_eq_nil_iff.1 values.symm).resolve_left (by simpa using positive)
      refine something (toList_eq_nil noValues (noError ?_))
      rw [noValues]
      exact Nat.pos_of_ne_zero (by simpa using positive)
    show Except.ok (if found.isEmpty && most ≠ 0 then [text] else found) = _
    rw [if_neg kept]

/-- What a template text lists under a cap: its own values, at least one unless an error
comes first. -/
theorem exists_capped_of_parse (provider : Provider) {text : Text} {template : Template}
    (read : Template.parse text = .ok template) :
    ∃ values failure, values.Nodup ∧ (failure = none → values ≠ []) ∧
      prompts provider text = LazyList.capped values failure := by
  by_cases nothing : (expandAt provider 0 template).toList = []
  · exact ⟨[text], none, List.nodup_singleton text, fun _ => List.cons_ne_nil _ _,
      prompts_of_nil read nothing⟩
  · exact ⟨_, _, nodup_eraseDups _,
      fun noError noValues => nothing (toList_eq_nil noValues noError),
      (prompts_of_ne_nil read nothing).trans (promptsOf_eq_capped provider template)⟩

theorem onlyTruncates_prompts (provider : Provider) (text : Text) :
    OnlyTruncates (prompts provider text) := by
  cases read : Template.parse text with
  | error e =>
    rw [prompts_of_error read]
    exact onlyTruncates_error _
  | ok template =>
    obtain ⟨values, failure, nodup, -, same⟩ := exists_capped_of_parse provider read
    rw [same]
    exact onlyTruncates_capped nodup failure

/-- A cap other than zero leaves a prompt: a template without any rendering is its own. -/
theorem prompts_ne_nil {text : Text} {most : Nat} {found : List Text} (positive : 0 < most)
    (listed : prompts provider text most = .ok found) : found ≠ [] := by
  cases read : Template.parse text with
  | error e =>
    rw [prompts_of_error read] at listed
    cases listed
  | ok template =>
    obtain ⟨values, failure, -, some, same⟩ := exists_capped_of_parse provider read
    rw [same] at listed
    obtain ⟨rfl, noError⟩ := LazyList.capped_eq_ok_iff.1 listed
    intro none
    have noValues := (List.take_eq_nil_iff.1 none).resolve_left (Nat.ne_of_gt positive)
    refine some (noError ?_) noValues
    rw [noValues]
    exact positive

/-- A larger cap only lists more of the same, of a tree and of a template text.  What is
listed of a template text under a cap that allows anything is not empty, and is the text
itself when there are no renderings.  An error behind the values that the cap asks for is
not seen. -/
theorem cap_only_truncates (provider : Provider) :
    (∀ template, OnlyTruncates (promptsOf provider template)) ∧
    (∀ text, OnlyTruncates (prompts provider text)) ∧
    (∀ text most found, 0 < most → prompts provider text most = .ok found → found ≠ []) ∧
    (∀ text template most, 0 < most → Template.parse text = .ok template →
      (expandAt provider 0 template).toList = [] → prompts provider text most = .ok [text]) ∧
    ∀ template (values : List Text) e behind most,
      (expandAt provider 0 template).toList = values.map .ok ++ .error e :: behind →
        most ≤ values.eraseDups.length →
          promptsOf provider template most = .ok (values.eraseDups.take most) := by
  refine ⟨onlyTruncates_promptsOf provider, onlyTruncates_prompts provider,
    fun text most found => prompts_ne_nil, ?_, ?_⟩
  · intro text template most positive read nothing
    have all : [text].length ≤ most := positive
    rw [prompts_of_nil read nothing, LazyList.capped_eq_ok_iff, List.take_of_length_le all]
    exact ⟨rfl, fun _ => rfl⟩
  · intro template values e behind most all enough
    obtain ⟨rfl, -⟩ := LazyList.beforeError_of_error all
    rw [promptsOf_eq_capped, LazyList.capped_eq_ok_iff]
    exact ⟨rfl, fun few => absurd enough (Nat.not_le.2 few)⟩

/-- A repeated text does not count towards the cap, the broken value of a wildcard is an
error, and the two options in front of it are listed without it. -/
theorem cap_only_truncates_broken :
    let provider : Provider := fun name => if name = ['w'] then [['{']] else []
    let text := "{a|a|b|__w__}".toList
    let broken : GenerationError := .parse ⟨.unclosedVariant, 0, ['{']⟩
    prompts provider text 1 = .ok [['a']] ∧ prompts provider text 2 = .ok [['a'], ['b']] ∧
      prompts provider text 3 = .error broken ∧ prompts provider text 4 = .error broken ∧
      prompts provider "__v__".toList 5 = .ok ["__v__".toList] := by
  intro provider text broken
  obtain ⟨-, truncates, -, fallback, -⟩ := cap_only_truncates provider
  have two : prompts provider text 2 = .ok [['a'], ['b']] := by decide +kernel
  have three : prompts provider text 3 = .error broken := by decide +kernel
  have lone : Template.parse "__v__".toList = .ok (.ofParts [.wildcard ['v']]) := by
    with_unfolding_all rfl
  exact ⟨(truncates text).take_of_ok (by decide) two, two, three,
    (truncates text).error_of_error (by decide) three,
    fallback _ _ 5 (by decide) lone (by decide +kernel)⟩

end Enumeration

end PromptTemplate
