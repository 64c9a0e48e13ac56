/-
# PromptTemplate.Proofs.Template.Options -- a variant is read option by option

Texts that parse, with dividers between them and braces around them, make the variant of
what they make: groups, wildcards and nested variants keep their inner signs to
themselves.  Two things in front of an option are looked for in its characters and not in
its tokens.  A weight belongs to the option, so options that start with one are left out.
The `$$` of a header does not, and the search for it enters groups and the names of
wildcards: where the first option holds `$$` in front of every brace and divider, the
whole text is refused, because what parses and stands in front of such a `$$` is never a
bound (`read?_eq_none_of_parse`).
-/
import PromptTemplate.Proofs.Template.Framing

set_option autoImplicit false

namespace PromptTemplate

open Template Token

namespace Template

/-- Characters that start nothing are read one by one. -/
theorem exists_pieces_of_plain {t : Text}
    (plain : ∀ c ∈ t, c ∉ ['{', '|', '}', '(', '[', '$', ')', ']', '_'])
    (outer : List OpenVariant) (before : List Piece) (rest : Text) :
    ∃ pieces, assemble outer before (tokens (t ++ rest)) = assemble outer pieces (tokens rest) := by
  induction t generalizing before with
  | nil => exact ⟨before, rfl⟩
  | cons c t ih =>
    obtain ⟨first, others⟩ := List.forall_mem_cons.1 plain
    have other : c ∉ ['{', '|', '}', '(', '[', '$', ')', ']'] := fun special =>
      first (List.mem_append_left ['_'] special)
    have alone : c = '_' → (t ++ rest).head? ≠ some '_' := by
      rintro rfl
      exact absurd (by decide) first
    rw [List.cons_append, tokens_cons, scan_other other alone]
    split
    · exact ih others _
    · exact ih others _

/-- What parses does not start with a bound and `$$`. -/
theorem read?_eq_none_of_parse {front rest : Text} {template : Template}
    (free : CommentFree (front ++ '$' :: '$' :: rest))
    (read : parse (front ++ '$' :: '$' :: rest) = .ok template) : Bound.read? front = none := by
  cases bounds : Bound.read? front with
  | none => rfl
  | some bound =>
    have plain : ∀ c ∈ front, c ∉ ['{', '|', '}', '(', '[', '$', ')', ']', '_'] := by
      intro c member special
      have strange : ∀ d ∈ ['{', '|', '}', '(', '[', '$', ')', ']', '_'],
          ¬ (Text.isSpace d = true ∨ Text.isDigit d = true ∨ d = '-') := by
        simp only [List.mem_cons, List.not_mem_nil, or_false, forall_eq_or_imp, forall_eq]
        decide
      exact strange c special (Bound.plain_of_read? bounds c member)
    -- the front is read one character after the other, and then the dollar is a fault
    obtain ⟨pieces, same⟩ := exists_pieces_of_plain plain [] [] ('$' :: '$' :: rest)
    rw [parse_eq_ok_iff, stripComments_eq_self free, same, tokens_cons] at read
    cases read

/-! ## Options -/

/-- An option without a weight is read as an option of weight one. -/
theorem readsOption_of_parse {t : Text} {value : Template} (free : CommentFree t)
    (unweighted : ∀ w front, WritesLeadingWeight w front → ¬ front <+: t)
    (read : parse t = .ok value) : ReadsOption t ⟨.one, value⟩ := by
  obtain ⟨pieces, -, reads, -, rfl⟩ := exists_readsAs_of_parse free read
  refine ⟨t, pieces, reads, rfl, fun c rest sign => ?_⟩
  rw [weight, weight?_append_sign sign, finds_weight?.eq_none_iff.2 unweighted]
  rfl

section Options

variable {first : Text} {others : List Text} {values : List Template}

theorem readsOptions_of_parse {texts : List Text} (free : ∀ t ∈ texts, CommentFree t)
    (unweighted : ∀ t ∈ texts, ∀ w front, WritesLeadingWeight w front → ¬ front <+: t)
    (read : List.Forall₂ (fun t value => parse t = .ok value) texts values) :
    List.Forall₂ ReadsOption texts (values.map (⟨.one, ·⟩)) := by
  induction read with
  | nil => exact .nil
  | cons here _ ih =>
    rw [List.forall_mem_cons] at free unweighted
    exact .cons (readsOption_of_parse free.1 unweighted.1 here) (ih free.2 unweighted.2)

theorem exists_sign_behind (first : Text) (others : List Text) :
    ∃ c rest, IsSign c ∧
      Text.joinAll ['|'] (first :: others) ++ ['}'] = first ++ c :: rest := by
  obtain ⟨c, rest, sign, shape⟩ := exists_sign_of_dividedTail others []
  exact ⟨c, rest, sign, by rw [joinAll_divided, List.append_assoc, shape]⟩

theorem commentFree_braced {texts : List Text} (free : ∀ t ∈ texts, CommentFree t) :
    CommentFree ('{' :: (Text.joinAll ['|'] texts ++ ['}'])) :=
  commentFree_cons_of_ne (by decide) (by decide)
    (commentFree_append_cons (commentFree_joinAll (by decide) (by decide) free)
      (commentFree_singleton_iff.2 (by decide)) (by decide))

/-- Where no `$$` is found in the first option there is no header. -/
theorem header_of_segment?_eq_none (notFound : segment? first = none) :
    header (Text.joinAll ['|'] (first :: others) ++ ['}']) =
      .ok (none, defaultJoiner, Text.joinAll ['|'] (first :: others) ++ ['}']) := by
  obtain ⟨c, behind, sign, shape⟩ := exists_sign_behind first others
  rw [header, shape, segment?_append_sign sign, notFound]
  rfl

/-- What is found in front of a `$$` in the first option is read as a bound. -/
theorem header_of_read?_eq_none {front rest : Text} (found : segment? first = some (front, rest))
    (noBound : Bound.read? front = none) :
    header (Text.joinAll ['|'] (first :: others) ++ ['}']) =
      .error ⟨.invalidBound, Text.joinAll ['|'] (first :: others) ++ ['}'], front⟩ := by
  obtain ⟨c, behind, sign, shape⟩ := exists_sign_behind first others
  rw [header, shape, segment?_append_sign sign, found]
  simp only [Option.map_some, Prod.map, id, noBound]

/-- Texts that parse and start with no weight, divided and in braces, are the options of a
variant, each with weight one; but where the first of them holds `$$` in front of every
brace and divider, what stands in front of that `$$` is refused as a bound. -/
theorem parse_options (free : ∀ t ∈ first :: others, CommentFree t)
    (unweighted : ∀ t ∈ first :: others, ∀ w front, WritesLeadingWeight w front → ¬ front <+: t)
    (read : List.Forall₂ (fun t value => parse t = .ok value) (first :: others) values) :
    ((∀ front rest, first = front ++ '$' :: '$' :: rest → ∃ c ∈ front, IsSign c) →
      parse ('{' :: (Text.joinAll ['|'] (first :: others) ++ ['}'])) = .ok (.ofParts
        [.variant (values.map (⟨.one, ·⟩)) ⟨1, 1, Nat.le_refl 1, Nat.le_refl 1⟩ [',']])) ∧
    (∀ front rest, first = front ++ '$' :: '$' :: rest → (∀ c ∈ front, ¬ IsSign c) →
      ¬ ['$', '$'] <:+: front ++ ['$'] →
      parse ('{' :: (Text.joinAll ['|'] (first :: others) ++ ['}'])) =
        .error ⟨.invalidBound, 1, front⟩) := by
  have whole := stripComments_eq_self (commentFree_braced free)
  constructor
  · -- a first option without `$$` of its own leaves the variant without a header
    intro noHeader
    have notFound : segment? first = none := by
      refine Option.eq_none_iff_forall_ne_some.2 fun found same => ?_
      obtain ⟨split, noSigns, -⟩ := segment?_eq_some_iff.1 same
      obtain ⟨d, member, sign⟩ := noHeader _ _ split
      exact noSigns d member sign
    have nonempty : values.map (Weighted.mk Binary64.one) ≠ [] := by
      cases read
      exact List.cons_ne_nil _ _
    rw [parse_eq_ok_iff, whole, assemble_variant (readsOptions_of_parse free unweighted read)
      nonempty (header_of_segment?_eq_none notFound) [] [], tokens, assemble]
    rfl
  · -- the text in front of the `$$` starts an option that parses, so it is no bound
    intro front rest split noSigns noPair
    have noBound : Bound.read? front = none := by
      subst split
      cases read with
      | cons here _ => exact read?_eq_none_of_parse (free _ List.mem_cons_self) here
    have refused : header (Text.joinAll ['|'] (first :: others) ++ ['}']) =
        .error ⟨.invalidBound, Text.joinAll ['|'] (first :: others) ++ ['}'], front⟩ :=
      header_of_read?_eq_none (segment?_eq_some_iff.2 ⟨split, noSigns, noPair⟩) noBound
    rw [parse_eq_error_iff, whole, tokens_cons, scan_brace, scanOpening, refused]
    refine ⟨_, rfl, ?_⟩
    simp only [Stop.toError, Text.utf8Size]
    congr 1
    show '{'.utf8Size + _ - _ = 1
    rw [Nat.add_sub_cancel]
    rfl

/-- A group, a wildcard and a nested variant keep their dividers to themselves. -/
theorem parse_options_nested :
    parse "{a (b|c)|__x|y__ {2$$d|e}|}".toList = .ok (.ofParts
      [.variant
        [⟨.one, .ofParts [.literal "a (b|c)".toList]⟩,
          ⟨.one, .ofParts [.wildcard "x|y".toList, .ofOptions [⟨.one, .ofParts [.literal ['d']]⟩,
            ⟨.one, .ofParts [.literal ['e']]⟩] (some (.exactly 2)) [',']]⟩,
          ⟨.one, .ofParts []⟩]
        ⟨1, 1, Nat.le_refl 1, Nat.le_refl 1⟩ [',']]) := by
  have free : ∀ t ∈ ["a (b|c)".toList, "__x|y__ {2$$d|e}".toList, []], CommentFree t := by
    simp only [List.mem_cons, List.not_mem_nil, or_false, forall_eq_or_imp, forall_eq]
    exact ⟨commentFree_of_all (by decide), commentFree_of_all (by decide), commentFree_nil⟩
  have unweighted : ∀ t ∈ ["a (b|c)".toList, "__x|y__ {2$$d|e}".toList, []],
      ∀ w front, WritesLeadingWeight w front → ¬ front <+: t := by
    simp only [← finds_weight?.eq_none_iff, List.mem_cons, List.not_mem_nil, or_false,
      forall_eq_or_imp, forall_eq]
    exact ⟨rfl, rfl, rfl⟩
  refine (parse_options free unweighted
    (.cons (by with_unfolding_all rfl) (.cons (by with_unfolding_all rfl)
      (.cons (by with_unfolding_all rfl) .nil)))).1 ?_
  intro front rest split
  have dollar : '$' ∈ "a (b|c)".toList := by
    rw [split]
    simp
  exact absurd dollar (by decide)

/-- A group that parses is an option behind another one, but not in front. -/
theorem parse_options_refused :
    (∀ t ∈ ["(a$$b)".toList, ['c']], CommentFree t ∧
      ∀ w front, WritesLeadingWeight w front → ¬ front <+: t) ∧
    parse "(a$$b)".toList = .ok (.ofParts [.literal "(a$$b)".toList]) ∧
    parse ['c'] = .ok (.ofParts [.literal ['c']]) ∧
    parse ('{' :: (Text.joinAll ['|'] [['c'], "(a$$b)".toList] ++ ['}'])) = .ok (.ofParts
      [.variant [⟨.one, .ofParts [.literal ['c']]⟩, ⟨.one, .ofParts [.literal "(a$$b)".toList]⟩]
        ⟨1, 1, Nat.le_refl 1, Nat.le_refl 1⟩ [',']]) ∧
    parse ('{' :: (Text.joinAll ['|'] ["(a$$b)".toList, ['c']] ++ ['}'])) =
      .error ⟨.invalidBound, 1, "(a".toList⟩ := by
  refine ⟨?_, ?_, ?_, ?_, ?_⟩
  · simp only [← finds_weight?.eq_none_iff, List.mem_cons, List.not_mem_nil, or_false,
      forall_eq_or_imp, forall_eq]
    exact ⟨⟨commentFree_of_all (by decide), rfl⟩, commentFree_of_all (by decide), rfl⟩
  · with_unfolding_all rfl
  · with_unfolding_all rfl
  · with_unfolding_all rfl
  · with_unfolding_all rfl

end Options

end Template

end PromptTemplate
