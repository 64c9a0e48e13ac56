/-
# PromptTemplate.Proofs.Template.Headers -- a variant with a bound and a joiner is read as written

A bound and a joiner in front of the options leave nothing to look for in the options:
each of them is read on its own, with the weight that is written in front of it or with
weight one (`WritesOption`), whatever it holds.  This is where a header differs from none
at all: without one the first option is searched for `$$`.
-/
import PromptTemplate.Proofs.Template.Options

set_option autoImplicit false

namespace PromptTemplate.Template

open Token

/-! ## No comment starts in front of the options -/

theorem commentFree_of_read? {t : Text} {bound : Bound} (read : Bound.read? t = some bound) :
    CommentFree t := by
  refine commentFree_of_forall fun c member => ⟨?_, ?_⟩
  · rintro rfl
    exact absurd (Bound.plain_of_read? read _ member) (by decide)
  · rintro rfl
    exact absurd (Bound.plain_of_read? read _ member) (by decide)

theorem commentFree_leadingWeight {w : Binary64} {front t : Text}
    (writes : WritesLeadingWeight w front) (free : CommentFree t) : CommentFree (front ++ t) := by
  obtain ⟨space, written, spaces, writes, rfl⟩ := writes
  have noStart : ∀ c ∈ space, c ≠ '#' ∧ c ≠ '/' := by
    intro c member
    constructor
    · rintro rfl
      exact absurd (spaces _ member) (by decide)
    · rintro rfl
      exact absurd (spaces _ member) (by decide)
  rw [List.append_assoc]
  refine commentFree_append_iff.2 ⟨commentFree_of_forall noStart, commentFree_option writes free,
    fun c _ last _ opens => ?_⟩
  exact (noStart c (List.mem_of_getLast? last)).2 opens.1

/-! ## Options with and without a weight -/

/-- The text is one that parses to the value of the option, behind the weight of the
option; or alone, if it starts with no weight and that of the option is one. -/
inductive WritesOption : Text → Weighted Template → Prop where
  | weighted {w : Binary64} {front t : Text} {value : Template}
      (writes : WritesLeadingWeight w front) (free : CommentFree t) (read : parse t = .ok value) :
      WritesOption (front ++ t) ⟨w, value⟩
  | plain {t : Text} {value : Template}
      (unweighted : ∀ w front, WritesLeadingWeight w front → ¬ front <+: t)
      (free : CommentFree t) (read : parse t = .ok value) : WritesOption t ⟨.one, value⟩

namespace WritesOption

variable {t : Text} {option : Weighted Template}

theorem commentFree (writes : WritesOption t option) : CommentFree t := by
  cases writes with
  | weighted writes free _ => exact commentFree_leadingWeight writes free
  | plain _ free _ => exact free

/-- The text of an option is read as the option. -/
theorem readsOption (writes : WritesOption t option) : ReadsOption t option := by
  cases writes with
  | plain unweighted free read => exact readsOption_of_parse free unweighted read
  | @weighted w front t value writes free read =>
    obtain ⟨pieces, -, reads, -, rfl⟩ := exists_readsAs_of_parse free read
    refine ⟨t, pieces, reads, rfl, fun c rest _ => ?_⟩
    rw [List.append_assoc, weight, (finds_weight? _ _ _).2 ⟨front, writes, rfl⟩]
    rfl

end WritesOption

theorem commentFree_of_writesOptions {texts : List Text} {options : List (Weighted Template)}
    (writes : List.Forall₂ WritesOption texts options) : ∀ t ∈ texts, CommentFree t := by
  induction writes with
  | nil => exact nofun
  | cons first _ ih => exact List.forall_mem_cons.2 ⟨first.commentFree, ih⟩

/-! ## Variants with a header -/

/-- A bound, a joiner and options, each behind the other and in braces, are a variant of
the options with that joiner, and the numbers of picks that the bound allows are in order
and not zero. -/
theorem parse_headed {written joiner : Text} {bound : Bound} {texts : List Text}
    {options : List (Weighted Template)} (bounds : Bound.read? written = some bound)
    (isJoiner : IsJoiner joiner) (nonempty : texts ≠ [])
    (writes : List.Forall₂ WritesOption texts options) :
    ∃ range, PickRange.ofBound options.length bound = range ∧ 1 ≤ range.least ∧
      range.least ≤ range.most ∧
      parse ('{' :: (written ++ '$' :: '$' :: (joiner ++ '$' :: '$' ::
        (Text.joinAll ['|'] texts ++ ['}'])))) =
          .ok (.ofParts [.variant options range joiner]) := by
  refine ⟨_, rfl, PickRange.one_le_least _, PickRange.least_le_most _, ?_⟩
  have free := commentFree_of_writesOptions writes
  have whole : CommentFree ('{' :: (written ++ '$' :: '$' :: (joiner ++ '$' :: '$' ::
      (Text.joinAll ['|'] texts ++ ['}'])))) :=
    commentFree_opening (commentFree_of_read? bounds) isJoiner.commentFree
      (commentFree_append_cons (commentFree_joinAll (by decide) (by decide) free)
        (commentFree_singleton_iff.2 (by decide)) (by decide))
  have some : options ≠ [] := by
    rintro rfl
    exact nonempty (List.forall₂_nil_right_iff.1 writes)
  have reads : List.Forall₂ ReadsOption texts options :=
    writes.imp fun _ _ own => own.readsOption
  rw [parse_eq_ok_iff, stripComments_eq_self whole,
    assemble_variant reads some (header_append bounds isJoiner _) [] [], tokens, assemble]
  rfl

/-- `$$`, signs and a second weight inside the options are left to them. -/
theorem parse_headed_nested : ∃ range : PickRange, range.least = 1 ∧ range.most = 3 ∧
    parse "\x7b 3 - 1 $$ & $$2::(a$$b)|__x\x7d$$y__|.5::{2$$;$$c|1::d}|1::2::e|\x7d".toList =
      .ok (.ofParts [.variant
        [⟨.ofDecimal ['2'] [], .ofParts [.literal "(a$$b)".toList]⟩,
          ⟨.one, .ofParts [.wildcard "x\x7d$$y".toList]⟩,
          ⟨.ofDecimal [] ['5'], .ofParts [.ofOptions [⟨.one, .ofParts [.literal ['c']]⟩,
            ⟨.ofDecimal ['1'] [], .ofParts [.literal ['d']]⟩] (some (.exactly 2)) [';']]⟩,
          ⟨.ofDecimal ['1'] [], .ofParts [.literal "2::e".toList]⟩,
          ⟨.one, .ofParts []⟩]
        range " & ".toList]) := by
  have isJoiner : IsJoiner " & ".toList := by
    refine ⟨by simp, fun inside => ?_, by decide, commentFree_of_all (by decide)⟩
    exact absurd (inside.subset List.mem_cons_self) (by decide)
  have weighs : ∀ {t : Text} {w : Binary64}, WritesWeight t w →
      WritesLeadingWeight w (t ++ [':', ':']) :=
    fun writes => ⟨[], _, nofun, writes, rfl⟩
  have one : WritesWeight ['1'] (.ofDecimal ['1'] []) := .digits (by simp) rfl
  have two : WritesWeight ['2'] (.ofDecimal ['2'] []) := .digits (by simp) rfl
  have half : WritesWeight ['.', '5'] (.ofDecimal [] ['5']) :=
    WritesWeight.fraction (by simp) List.all_nil rfl
  have writes : List.Forall₂ WritesOption
      ["2::(a$$b)".toList, "__x\x7d$$y__".toList, ".5::{2$$;$$c|1::d}".toList,
        "1::2::e".toList, []]
      _ :=
    .cons (.weighted (weighs two) (commentFree_of_all (t := "(a$$b)".toList) (by decide))
        (by with_unfolding_all rfl)) <|
    .cons (.plain (finds_weight?.eq_none_iff.1 rfl) (commentFree_of_all (by decide))
        (by with_unfolding_all rfl)) <|
    .cons (.weighted (weighs half)
        (commentFree_of_all (t := "{2$$;$$c|1::d}".toList) (by decide))
        (by with_unfolding_all rfl)) <|
    .cons (.weighted (weighs one) (commentFree_of_all (t := "2::e".toList) (by decide))
        (by with_unfolding_all rfl)) <|
    .cons (.plain (finds_weight?.eq_none_iff.1 rfl) commentFree_nil (by with_unfolding_all rfl))
    .nil
  have bounds : Bound.read? " 3 - 1 ".toList = some (.between 3 1) := by decide
  obtain ⟨range, same, -, -, read⟩ := parse_headed bounds isJoiner (by simp) writes
  exact ⟨range, same ▸ rfl, same ▸ rfl, read⟩

end PromptTemplate.Template
