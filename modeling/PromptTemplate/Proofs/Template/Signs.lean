/-
# PromptTemplate.Proofs.Template.Signs -- names, headers and weights are read as written

What is read in front of a delimiter holds no delimiter, not even half of one at its
end; and such a text in front of a delimiter is what is read.  From this follow both
directions for the names of wildcards and for joiners, and that a header is read as its
bound and its joiner.  A weight that is read is a decimal text between white space and
`::`, and such a text is read as its weight.
-/
import PromptTemplate.Proofs.Template.Bounds
import PromptTemplate.Proofs.Template.Canonical

set_option autoImplicit false

namespace PromptTemplate

open Template

/-- A text and half a delimiter behind it hold no delimiter. -/
theorem no_pair_concat_iff {a : Char} {t : Text} :
    ¬ [a, a] <:+: t ++ [a] ↔ ¬ [a, a] <:+: t ∧ t.getLast? ≠ some a := by
  have single : ¬ [a, a] <:+: [a] := fun inside => absurd inside.length_le (by simp)
  rw [pair_infix_append_iff]
  simp only [single, false_or, List.head?_cons, and_true, not_or, ne_eq]

/-- Such a text goes on in front of a character unless two halves meet. -/
theorem no_pair_cons_concat_iff {a c : Char} {t : Text} :
    ¬ [a, a] <:+: c :: (t ++ [a]) ↔
      ¬ [a, a] <:+: t ++ [a] ∧ (c = a → (t ++ [a]).head? ≠ some a) := by
  rw [pair_infix_cons_iff, not_or, not_and]

/-- What comes first in front of a delimiter comes first in front of its half. -/
theorem head?_of_append_pair {a b : Char} {t rest : Text}
    (first : (t ++ a :: a :: rest).head? = some b) : (t ++ [a]).head? = some b := by
  rw [List.head?_append] at first ⊢
  exact first

namespace Token

/-! ## Wildcards -/

/-- The delimiter that is found is the first one: the name does not even make one with the
underscore behind it. -/
theorem no_delimiter_of_atDelimiter? {t name rest : Text}
    (found : atDelimiter? t = some (name, rest)) : ¬ ['_', '_'] <:+: name ++ ['_'] := by
  fun_induction atDelimiter? t generalizing name rest with
  | case1 behind =>
    obtain ⟨rfl, -⟩ := Prod.mk.inj (Option.some.inj found)
    exact fun inside => absurd inside.length_le (by simp)
  | case2 c t noDelimiter ih =>
    obtain ⟨⟨front, behind⟩, inner, same⟩ := Option.map_eq_some_iff.1 found
    obtain ⟨rfl, rfl⟩ := Prod.mk.inj same
    refine no_pair_cons_concat_iff.2 ⟨ih inner, fun half first => ?_⟩
    have starts : t.head? = some '_' := by
      rw [eq_of_atDelimiter? inner, List.head?_append]
      rwa [List.head?_append] at first
    obtain ⟨rest, whole⟩ := List.head?_eq_some_iff.1 starts
    exact noDelimiter rest half whole
  | case3 => cases found

theorem atDelimiter?_append {name : Text} (free : ¬ ['_', '_'] <:+: name ++ ['_']) (rest : Text) :
    atDelimiter? (name ++ '_' :: '_' :: rest) = some (name, rest) := by
  induction name with
  | nil => rw [List.nil_append, atDelimiter?]
  | cons c name ih =>
    obtain ⟨later, meet⟩ := no_pair_cons_concat_iff.1 free
    rw [List.cons_append, atDelimiter?.eq_2, ih later]
    · rfl
    · intro behind half starts
      exact meet half (head?_of_append_pair (by rw [starts]; rfl))

theorem isName_of_atDelimiter? {t name rest : Text} (nonempty : name ≠ [])
    (found : atDelimiter? t = some (name, rest)) (free : CommentFree t) : IsName name := by
  obtain ⟨noDelimiter, noUnderscore⟩ := no_pair_concat_iff.1 (no_delimiter_of_atDelimiter? found)
  refine ⟨nonempty, noDelimiter, noUnderscore, free.of_infix ?_⟩
  rw [eq_of_atDelimiter? found]
  exact (List.prefix_append _ _).isInfix

/-! ## Headers -/

def IsSign (c : Char) : Prop :=
  c = '{' ∨ c = '}' ∨ c = '|'

theorem no_delimiter_of_segment? {t segment rest : Text}
    (found : segment? t = some (segment, rest)) :
    (∀ c ∈ segment, ¬ (c = '{' ∨ c = '}' ∨ c = '|')) ∧ ¬ ['$', '$'] <:+: segment ++ ['$'] := by
  fun_induction segment? t generalizing segment rest with
  | case1 behind =>
    obtain ⟨rfl, -⟩ := Prod.mk.inj (Option.some.inj found)
    constructor
    · intro c member
      cases member
    · intro inside
      exact absurd inside.length_le (by simp)
  | case2 => cases found
  | case3 c t noDelimiter noSign ih =>
    obtain ⟨⟨front, behind⟩, inner, same⟩ := Option.map_eq_some_iff.1 found
    obtain ⟨rfl, rfl⟩ := Prod.mk.inj same
    obtain ⟨noSigns, free⟩ := ih inner
    refine ⟨List.forall_mem_cons.2 ⟨noSign, noSigns⟩, ?_⟩
    refine no_pair_cons_concat_iff.2 ⟨free, fun half first => ?_⟩
    have starts : t.head? = some '$' := by
      rw [eq_of_segment? inner, List.head?_append]
      rwa [List.head?_append] at first
    obtain ⟨rest, whole⟩ := List.head?_eq_some_iff.1 starts
    exact noDelimiter rest half whole
  | case4 => cases found

theorem segment?_append {segment : Text}
    (noSigns : ∀ c ∈ segment, ¬ (c = '{' ∨ c = '}' ∨ c = '|'))
    (free : ¬ ['$', '$'] <:+: segment ++ ['$']) (rest : Text) :
    segment? (segment ++ '$' :: '$' :: rest) = some (segment, rest) := by
  induction segment with
  | nil => rw [List.nil_append, segment?]
  | cons c segment ih =>
    obtain ⟨noSign, noSigns⟩ := List.forall_mem_cons.1 noSigns
    obtain ⟨later, meet⟩ := no_pair_cons_concat_iff.1 free
    rw [List.cons_append, segment?.eq_2, if_neg noSign, ih noSigns later]
    · rfl
    · intro behind half starts
      exact meet half (head?_of_append_pair (by rw [starts]; rfl))

/-- A segment ends at the first `$$`, and no sign of a variant stands in it. -/
theorem segment?_eq_some_iff {t segment rest : Text} :
    segment? t = some (segment, rest) ↔
      t = segment ++ '$' :: '$' :: rest ∧ (∀ c ∈ segment, ¬ (c = '{' ∨ c = '}' ∨ c = '|')) ∧
        ¬ ['$', '$'] <:+: segment ++ ['$'] := by
  constructor
  · intro found
    exact ⟨eq_of_segment? found, no_delimiter_of_segment? found⟩
  · rintro ⟨rfl, noSigns, free⟩
    exact segment?_append noSigns free rest

theorem isJoiner_of_segment? {t joiner rest : Text}
    (found : segment? t = some (joiner, rest)) (free : CommentFree t) : IsJoiner joiner := by
  obtain ⟨noSigns, noPair⟩ := no_delimiter_of_segment? found
  obtain ⟨noDelimiter, noDollar⟩ := no_pair_concat_iff.1 noPair
  refine ⟨noSigns, noDelimiter, noDollar, free.of_infix ?_⟩
  rw [eq_of_segment? found]
  exact (List.prefix_append _ _).isInfix

theorem isJoiner_defaultJoiner : IsJoiner defaultJoiner where
  no_sign := by simp [defaultJoiner]
  no_delimiter := fun inside => absurd inside.length_le (by decide)
  no_dollar := by decide
  commentFree := commentFree_singleton_iff.2 (by decide)

end Token

/-! ## Bounds -/

/-- With fewer options than the limit, the numbers of picks stay below it. -/
def FitsBelow (limit : Nat) (bound : Option Bound) : Prop :=
  ∀ (options : List (Weighted Template)) (joiner : Text), options.length < limit →
    ∃ range, Template.ofOptions options bound joiner = .variant options range joiner ∧
      range.most < limit

theorem fitsBelow_none {limit : Nat} (large : 1 < limit) : FitsBelow limit none :=
  fun _ _ _ => ⟨PickRange.single, rfl, large⟩

/-- The numbers in a bound that is read are sizes, so the picks stay below a limit that no
size reaches. -/
theorem fitsBelow_of_read? {limit : Nat} {t : Text} {bound : Bound}
    (large : Text.sizeLimit ≤ limit) (read : Bound.read? t = some bound) :
    FitsBelow limit (some bound) := by
  intro options joiner fewer
  have two : 2 ≤ limit := Nat.le_trans (by decide) large
  have most := Bound.most_lt_of_below two (Bound.below_of_read? large read) options.length
  exact ⟨PickRange.ofBound options.length bound, rfl, by omega⟩

namespace Token

/-- A bound and a joiner, each in front of its delimiter, are read as they are. -/
theorem header_append {written joiner : Text} {bound : Bound}
    (read : Bound.read? written = some bound) (isJoiner : IsJoiner joiner) (rest : Text) :
    header (written ++ '$' :: '$' :: (joiner ++ '$' :: '$' :: rest)) =
      .ok (some bound, joiner, rest) := by
  have plain : ∀ c ∈ ['{', '}', '|', '$'], c ∉ written := by
    intro c special member
    have strange : ∀ d ∈ ['{', '}', '|', '$'],
        ¬ (Text.isSpace d = true ∨ Text.isDigit d = true ∨ d = '-') := by
      simp only [List.mem_cons, List.not_mem_nil, or_false, forall_eq_or_imp, forall_eq]
      decide
    exact strange c special (Bound.plain_of_read? read c member)
  have noSigns : ∀ c ∈ written, ¬ (c = '{' ∨ c = '}' ∨ c = '|') := by
    rintro c member (rfl | rfl | rfl) <;> exact plain _ (by simp) member
  have noDollar : '$' ∉ written := plain _ (by simp)
  have first := segment?_append noSigns (no_pair_concat_iff.2
    ⟨fun inside => noDollar (inside.subset List.mem_cons_self),
      fun last => noDollar (List.mem_of_getLast? last)⟩) (joiner ++ '$' :: '$' :: rest)
  have second := segment?_append isJoiner.no_sign
    (no_pair_concat_iff.2 ⟨isJoiner.no_delimiter, isJoiner.no_dollar⟩) rest
  simp only [header, first, read, second]

/-! ## Weights -/

theorem takeDigits_append {digits : Text} (all : digits.all Text.isDigit = true) {c : Char}
    (other : Text.isDigit c = false) (rest : Text) :
    (digits ++ c :: rest).takeWhile Text.isDigit = digits ∧
      (digits ++ c :: rest).dropWhile Text.isDigit = c :: rest := by
  rw [List.all_eq_true] at all
  rw [List.takeWhile_append_of_pos all, List.dropWhile_append_of_pos all]
  simp [other]

/-- A decimal text in front of `::` is read as its weight. -/
theorem weight?_append {t : Text} {w : Binary64} (writes : WritesWeight t w) (rest : Text) :
    weight? (t ++ ':' :: ':' :: rest) = some (w, rest) := by
  have colon : Text.isDigit ':' = false := by decide
  have point : Text.isDigit '.' = false := by decide
  have visible : Text.trimStart (t ++ ':' :: ':' :: rest) = t ++ ':' :: ':' :: rest := by
    cases writes with
    | digits some all =>
      obtain ⟨c, digits, rfl⟩ := List.exists_cons_of_ne_nil some
      exact Text.trimStart_cons_of_visible _
        (Text.isSpace_of_isDigit (List.all_eq_true.1 all c List.mem_cons_self))
    | @fraction whole fraction _ all _ =>
      cases whole with
      | nil => exact Text.trimStart_cons_of_visible _ (by decide)
      | cons c digits =>
        exact Text.trimStart_cons_of_visible _
          (Text.isSpace_of_isDigit (List.all_eq_true.1 all c List.mem_cons_self))
  unfold weight?
  rw [visible]
  cases writes with
  | digits some all =>
    obtain ⟨front, back⟩ := takeDigits_append all colon (':' :: rest)
    simp only [front, back, List.isEmpty_iff, if_neg some]
  | @fraction whole fraction some all all' =>
    rw [List.append_assoc, List.cons_append]
    obtain ⟨front, back⟩ := takeDigits_append all point (fraction ++ ':' :: ':' :: rest)
    obtain ⟨front', back'⟩ := takeDigits_append all' colon (':' :: rest)
    simp only [front, back, front', back', List.isEmpty_iff, if_neg some]

theorem weight_append {t : Text} {w : Binary64} (writes : WritesWeight t w) (rest : Text) :
    weight (t ++ ':' :: ':' :: rest) = (w, rest) := by
  rw [weight, weight?_append writes]
  rfl

/-- A weight that is read is written in front, behind white space. -/
theorem exists_written_of_weight? {t rest : Text} {w : Binary64}
    (found : weight? t = some (w, rest)) :
    ∃ written, WritesWeight written w ∧ Text.trimStart t = written ++ ':' :: ':' :: rest := by
  have digits : ∀ t : Text, (t.takeWhile Text.isDigit).all Text.isDigit = true := fun t =>
    List.all_takeWhile
  have whole := (List.takeWhile_append_dropWhile (p := Text.isDigit) (l := Text.trimStart t)).symm
  simp only [weight?] at found
  split at found
  · rename_i tail shape
    rw [shape] at whole
    split at found
    · cases found
    · rename_i some
      obtain ⟨rfl, rfl⟩ := Prod.mk.inj (Option.some.inj found)
      exact ⟨_, .digits (by simpa using some) (digits _), whole⟩
  · rename_i tail shape
    rw [shape] at whole
    split at found
    · rename_i behind shape'
      have fraction := (List.takeWhile_append_dropWhile (p := Text.isDigit) (l := tail)).symm
      rw [shape'] at fraction
      split at found
      · cases found
      · rename_i some
        obtain ⟨rfl, rfl⟩ := Prod.mk.inj (Option.some.inj found)
        refine ⟨_, .fraction (by simpa using some) (digits _) (digits _), ?_⟩
        rw [List.append_assoc, List.cons_append, ← fraction]
        exact whole
    · cases found
  · cases found

/-- A weight that is read is a decimal text between white space and `::`. -/
theorem weight?_eq_some_iff {t rest : Text} {w : Binary64} :
    weight? t = some (w, rest) ↔
      ∃ space written, (∀ c ∈ space, Text.isSpace c = true) ∧ WritesWeight written w ∧
        t = space ++ (written ++ ':' :: ':' :: rest) := by
  constructor
  · intro found
    obtain ⟨written, writes, behind⟩ := exists_written_of_weight? found
    refine ⟨t.takeWhile Text.isSpace, written, fun c member => List.mem_takeWhile_imp member,
      writes, ?_⟩
    rw [← behind]
    exact List.takeWhile_append_dropWhile.symm
  · rintro ⟨space, written, spaces, writes, rfl⟩
    have trimmed : weight? (space ++ (written ++ ':' :: ':' :: rest)) =
        weight? (written ++ ':' :: ':' :: rest) := by
      simp only [weight?, Text.trimStart_append spaces]
    rw [trimmed, weight?_append writes]

theorem isDecimal_one : IsDecimal .one := by
  have one : Binary64.ofDecimal ['1'] [] = .one := by decide +kernel
  exact ⟨['1'], one ▸ .digits (List.cons_ne_nil _ _) (by decide)⟩

theorem isDecimal_of_weight? {t rest : Text} {w : Binary64} (found : weight? t = some (w, rest)) :
    IsDecimal w := by
  obtain ⟨_, written, _, writes, _⟩ := weight?_eq_some_iff.1 found
  exact ⟨written, writes⟩

theorem isDecimal_weight (t : Text) : IsDecimal (weight t).1 := by
  unfold weight
  cases found : weight? t with
  | none => exact isDecimal_one
  | some read =>
    obtain ⟨w, rest⟩ := read
    exact isDecimal_of_weight? found

end Token

end PromptTemplate
