/-
# PromptTemplate.Proofs.Template.Bounds -- which texts are bounds

A bound is written as a size, as a size with a dash on one side of it, or as two sizes with
a dash between them, each size with white space around it (`WritesBound`).  A text is read
as the bound that it writes and as none if it writes none (`Bound.read?_eq_some_iff`).  The
first dash tells the shapes apart, so a text of one shape whose number is no size is not
read in another shape.

A size is below 2 to the power 64, whatever zeros it starts with.  Digits are worth no more
than the number that they stand in (`Text.digitsValue_le_of_infix`), so digits that go beyond
that anywhere make the text no bound.
-/
import PromptTemplate.Proofs.Text.Numerals
import PromptTemplate.Template.Range

set_option autoImplicit false

namespace PromptTemplate

/-! ## Parts of a list -/

/-- A part that lacks a member of the list stands on one side of it. -/
theorem infix_of_infix_append_cons {α : Type} {d s t : List α} {c : α} (absent : c ∉ d)
    (inside : d <:+: s ++ c :: t) : d <:+: s ∨ d <:+: t := by
  obtain ⟨u, v, shape⟩ := inside
  rcases List.append_eq_append_iff.1 shape with ⟨rest, rfl, -⟩ | ⟨rest, split, later⟩
  · exact .inl ⟨u, rest, rfl⟩
  · cases rest with
    | nil => exact .inl ⟨u, [], by simpa using split⟩
    | cons _ rest =>
      obtain ⟨rfl, rfl⟩ := List.cons.inj later
      rcases List.append_eq_append_iff.1 split with ⟨early, -, rfl⟩ | ⟨between, rfl, behind⟩
      · exact absurd (List.mem_append_right early List.mem_cons_self) absent
      · cases between with
        | nil =>
          obtain rfl : _ = d := behind
          exact absurd List.mem_cons_self absent
        | cons _ between =>
          obtain ⟨-, rfl⟩ := List.cons.inj behind
          exact .inr ⟨between, v, rfl⟩

/-- A part that has nothing in common with the two ends stands between them. -/
theorem infix_of_infix_append {α : Type} {d front body back : List α} (nonempty : d ≠ [])
    (noFront : ∀ c ∈ d, c ∉ front) (noBack : ∀ c ∈ d, c ∉ back)
    (inside : d <:+: front ++ body ++ back) : d <:+: body := by
  obtain ⟨first, member⟩ := List.exists_mem_of_ne_nil d nonempty
  have behindFront : d <:+: body ++ back := by
    rw [List.append_assoc] at inside
    rcases List.eq_nil_or_concat front with rfl | ⟨s, c, rfl⟩
    · exact inside
    · rw [List.concat_eq_append, List.append_assoc] at inside
      have absent : c ∉ d := fun held => noFront c held (by simp)
      rcases infix_of_infix_append_cons absent inside with early | later
      · exact absurd (by simpa using .inl (early.subset member)) (noFront first member)
      · exact later
  cases back with
  | nil => rwa [List.append_nil] at behindFront
  | cons c back =>
    have absent : c ∉ d := fun held => noBack c held List.mem_cons_self
    rcases infix_of_infix_append_cons absent behindFront with early | later
    · exact early
    · exact absurd (List.mem_cons_of_mem c (later.subset member)) (noBack first member)

namespace Text

/-! ## Sizes -/

structure WritesSize (digits : Text) (n : Nat) : Prop where
  nonempty : digits ≠ []
  digit : ∀ c ∈ digits, isDigit c = true
  value : digitsValue digits = n
  below : n < sizeLimit

theorem size?_eq_some_iff {t : Text} {n : Nat} : size? t = some n ↔ WritesSize t n := by
  unfold size?
  constructor
  · intro read
    split at read
    · rename_i held
      obtain ⟨nonempty, digits, below⟩ := held
      obtain rfl := Option.some.inj read
      exact ⟨nonempty, List.all_eq_true.1 digits, rfl, below⟩
    · cases read
  · rintro ⟨nonempty, digit, rfl, below⟩
    rw [if_pos ⟨nonempty, List.all_eq_true.2 digit, below⟩]

theorem foldl_digits_mono (t : Text) {m n : Nat} (le : m ≤ n) :
    t.foldl (fun n c => 10 * n + digitValue c) m ≤
      t.foldl (fun n c => 10 * n + digitValue c) n := by
  induction t generalizing m n with
  | nil => exact le
  | cons c t ih => exact ih (Nat.add_le_add_right (Nat.mul_le_mul_left 10 le) _)

/-- Further digits make no number smaller. -/
theorem le_foldl_digits (t : Text) (n : Nat) :
    n ≤ t.foldl (fun n c => 10 * n + digitValue c) n := by
  induction t generalizing n with
  | nil => exact Nat.le_refl n
  | cons c t ih =>
    have grown : n ≤ 10 * n + digitValue c := by omega
    exact Nat.le_trans grown (ih _)

/-- Digits are worth no more than any digits that they stand in. -/
theorem digitsValue_le_of_infix {digits t : Text} (inside : digits <:+: t) :
    digitsValue digits ≤ digitsValue t := by
  obtain ⟨front, back, rfl⟩ := inside
  calc digitsValue digits ≤ digitsValue (front ++ digits) := by
        rw [digitsValue, digitsValue, List.foldl_append]
        exact foldl_digits_mono digits (Nat.zero_le _)
    _ ≤ digitsValue (front ++ digits ++ back) := by
        rw [digitsValue, digitsValue, List.foldl_append (l := front ++ digits)]
        exact le_foldl_digits back _

/-! ## White space around a size -/

/-- The text writes the size, with white space around its digits. -/
def HoldsSize (t : Text) (n : Nat) : Prop :=
  ∃ front digits back, (∀ c ∈ front, isSpace c = true) ∧ (∀ c ∈ back, isSpace c = true) ∧
    WritesSize digits n ∧ t = front ++ digits ++ back

theorem size?_trim_eq_some_iff {t : Text} {n : Nat} : size? (trim t) = some n ↔ HoldsSize t n := by
  rw [size?_eq_some_iff]
  constructor
  · intro writes
    obtain ⟨front, back, spaceFront, spaceBack, shape⟩ := exists_spaces_trim t
    exact ⟨front, trim t, back, spaceFront, spaceBack, writes, shape⟩
  · rintro ⟨front, digits, back, spaceFront, spaceBack, writes, rfl⟩
    have seen : ∀ c ∈ digits, isSpace c = false := fun c member =>
      isSpace_of_isDigit (writes.digit c member)
    have start : trimStart (digits ++ back) = digits ++ back := by
      obtain ⟨c, rest, rfl⟩ := List.exists_cons_of_ne_nil writes.nonempty
      exact trimStart_cons_of_visible _ (seen c List.mem_cons_self)
    have trimmed : trim (front ++ digits ++ back) = digits := by
      calc trim (front ++ digits ++ back) = trimEnd (digits ++ back) := by
            rw [trim, List.append_assoc, trimStart_append spaceFront, start]
        _ = trimEnd digits := trimEnd_append spaceBack digits
        _ = digits := trimEnd_eq_self seen
    rwa [trimmed]

theorem not_mem_of_spaces {t : Text} {c : Char} (spaces : ∀ c ∈ t, isSpace c = true)
    (seen : isSpace c = false) : c ∉ t := by
  intro member
  rw [spaces c member] at seen
  cases seen

theorem holdsSize_ofNat {n : Nat} (below : n < sizeLimit) : HoldsSize (ofNat n) n :=
  ⟨[], ofNat n, [], List.forall_mem_nil _, List.forall_mem_nil _,
    ⟨ofNat_ne_nil n, fun _ => isDigit_of_mem_ofNat, digitsValue_ofNat n, below⟩,
    (List.append_nil _).symm⟩

theorem HoldsSize.lt {t : Text} {n : Nat} (holds : HoldsSize t n) : n < sizeLimit := by
  obtain ⟨_, _, _, -, -, writes, -⟩ := holds
  exact writes.below

theorem HoldsSize.plain {t : Text} {n : Nat} (holds : HoldsSize t n) :
    ∀ c ∈ t, isSpace c = true ∨ isDigit c = true := by
  obtain ⟨front, digits, back, spaceFront, spaceBack, writes, rfl⟩ := holds
  intro c member
  rw [List.mem_append, List.mem_append] at member
  rcases member with (space | inside) | space
  · exact .inl (spaceFront c space)
  · exact .inr (writes.digit c inside)
  · exact .inl (spaceBack c space)

theorem HoldsSize.dash_not_mem {t : Text} {n : Nat} (holds : HoldsSize t n) : '-' ∉ t := by
  intro member
  rcases holds.plain '-' member with space | digit
  · exact absurd space (by decide)
  · exact absurd digit (by decide)

/-- Digits in a text that holds a size are worth no more than the size. -/
theorem HoldsSize.digitsValue_lt {t digits : Text} {n : Nat} (holds : HoldsSize t n)
    (digit : ∀ c ∈ digits, isDigit c = true) (inside : digits <:+: t) :
    digitsValue digits < sizeLimit := by
  obtain ⟨front, whole, back, spaceFront, spaceBack, writes, rfl⟩ := holds
  have noSpace : ∀ {space : Text}, (∀ c ∈ space, isSpace c = true) → ∀ c ∈ digits, c ∉ space :=
    fun spaces c held => not_mem_of_spaces spaces (isSpace_of_isDigit (digit c held))
  cases digits with
  | nil => decide
  | cons c digits =>
    have part := infix_of_infix_append (List.cons_ne_nil c digits) (noSpace spaceFront)
      (noSpace spaceBack) inside
    calc digitsValue (c :: digits) ≤ digitsValue whole := digitsValue_le_of_infix part
      _ = n := writes.value
      _ < sizeLimit := writes.below

end Text

open Text (HoldsSize digitsValue holdsSize_ofNat isDigit isSpace isSpace_of_isDigit
  not_mem_of_spaces ofNat size? size?_trim_eq_some_iff sizeLimit trim trim_eq_nil_iff)

/-! ## Bounds -/

inductive WritesBound : Text → Bound → Prop where
  | exactly {t : Text} {n : Nat} (size : HoldsSize t n) : WritesBound t (.exactly n)
  | atLeast {front back : Text} {n : Nat} (least : HoldsSize front n)
      (nothing : ∀ c ∈ back, isSpace c = true) :
      WritesBound (front ++ '-' :: back) (.atLeast n)
  | atMost {front back : Text} {n : Nat} (nothing : ∀ c ∈ front, isSpace c = true)
      (most : HoldsSize back n) : WritesBound (front ++ '-' :: back) (.atMost n)
  | between {front back : Text} {a b : Nat} (first : HoldsSize front a)
      (second : HoldsSize back b) : WritesBound (front ++ '-' :: back) (.between a b)

namespace Bound

theorem atDash?_of_not_mem {t : Text} (noDash : '-' ∉ t) : atDash? t = none := by
  induction t with
  | nil => rfl
  | cons c t ih =>
    rw [List.mem_cons, not_or] at noDash
    rw [atDash?, if_neg (Ne.symm noDash.1), ih noDash.2]
    rfl

theorem atDash?_append {front : Text} (noDash : '-' ∉ front) (rest : Text) :
    atDash? (front ++ '-' :: rest) = some (front, rest) := by
  induction front with
  | nil => rfl
  | cons c front ih =>
    rw [List.mem_cons, not_or] at noDash
    rw [List.cons_append, atDash?, if_neg (Ne.symm noDash.1), ih noDash.2]
    rfl

theorem read?_of_not_mem {t : Text} (noDash : '-' ∉ t) :
    read? t = (size? (trim t)).map .exactly := by
  rw [read?, atDash?_of_not_mem noDash]

/-- Around the first dash there are one size or two. -/
theorem read?_append_dash {front back : Text} (noDash : '-' ∉ front) {bound : Bound} :
    read? (front ++ '-' :: back) = some bound ↔
      (trim back = [] ∧ ∃ n, size? (trim front) = some n ∧ .atLeast n = bound) ∨
      (trim front = [] ∧ ∃ n, size? (trim back) = some n ∧ .atMost n = bound) ∨
      ∃ a, size? (trim front) = some a ∧ ∃ b, size? (trim back) = some b ∧
        .between a b = bound := by
  have noSize : size? [] = none := rfl
  rw [read?, atDash?_append noDash]
  dsimp only
  generalize trim front = first
  generalize trim back = second
  cases first with
  | nil =>
    cases second with
    | nil => simp [noSize]
    | cons d second => simp [noSize]
  | cons c first =>
    cases second with
    | nil => simp [noSize]
    | cons d second => simp [Option.bind_eq_some_iff]

/-- Reading a bound is exact in both directions. -/
theorem read?_eq_some_iff {t : Text} {bound : Bound} :
    read? t = some bound ↔ WritesBound t bound := by
  constructor
  · intro read
    by_cases dash : '-' ∈ t
    · obtain ⟨front, back, rfl, noDash⟩ := List.eq_append_cons_of_mem dash
      rcases (read?_append_dash noDash).1 read with
        ⟨nothing, n, least, rfl⟩ | ⟨nothing, n, most, rfl⟩ | ⟨a, first, b, second, rfl⟩
      · exact .atLeast (size?_trim_eq_some_iff.1 least) (trim_eq_nil_iff.1 nothing)
      · exact .atMost (trim_eq_nil_iff.1 nothing) (size?_trim_eq_some_iff.1 most)
      · exact .between (size?_trim_eq_some_iff.1 first) (size?_trim_eq_some_iff.1 second)
    · rw [read?_of_not_mem dash] at read
      obtain ⟨n, size, rfl⟩ := Option.map_eq_some_iff.1 read
      exact .exactly (size?_trim_eq_some_iff.1 size)
  · intro writes
    cases writes with
    | exactly size =>
      rw [read?_of_not_mem size.dash_not_mem, size?_trim_eq_some_iff.2 size]
      rfl
    | atLeast least nothing =>
      refine (read?_append_dash least.dash_not_mem).2 (.inl ⟨?_, _, ?_, rfl⟩)
      · exact trim_eq_nil_iff.2 nothing
      · exact size?_trim_eq_some_iff.2 least
    | atMost nothing most =>
      refine (read?_append_dash ?_).2 (.inr (.inl ⟨?_, _, ?_, rfl⟩))
      · exact not_mem_of_spaces nothing (by decide)
      · exact trim_eq_nil_iff.2 nothing
      · exact size?_trim_eq_some_iff.2 most
    | between first second =>
      refine (read?_append_dash first.dash_not_mem).2 (.inr (.inr ⟨_, ?_, _, ?_, rfl⟩))
      · exact size?_trim_eq_some_iff.2 first
      · exact size?_trim_eq_some_iff.2 second

/-- Two sizes with a dash between them are read as the bound that they write. -/
theorem read?_between {a b : Nat} (belowA : a < sizeLimit) (belowB : b < sizeLimit) :
    read? (ofNat a ++ '-' :: ofNat b) = some (.between a b) :=
  read?_eq_some_iff.2 (.between (holdsSize_ofNat belowA) (holdsSize_ofNat belowB))

/-- A bound is written with digits, white space and a dash. -/
theorem plain_of_read? {t : Text} {bound : Bound} (read : read? t = some bound) :
    ∀ c ∈ t, isSpace c = true ∨ isDigit c = true ∨ c = '-' := by
  have ofSize : ∀ {s : Text} {n : Nat}, HoldsSize s n →
      ∀ c ∈ s, isSpace c = true ∨ isDigit c = true ∨ c = '-' :=
    fun size c member => (size.plain c member).imp_right .inl
  have ofSpaces : ∀ {s : Text}, (∀ c ∈ s, isSpace c = true) →
      ∀ c ∈ s, isSpace c = true ∨ isDigit c = true ∨ c = '-' :=
    fun spaces c member => .inl (spaces c member)
  have around : ∀ {front back : Text},
      (∀ c ∈ front, isSpace c = true ∨ isDigit c = true ∨ c = '-') →
      (∀ c ∈ back, isSpace c = true ∨ isDigit c = true ∨ c = '-') →
      ∀ c ∈ front ++ '-' :: back, isSpace c = true ∨ isDigit c = true ∨ c = '-' :=
    fun inFront behind =>
      List.forall_mem_append.2 ⟨inFront, List.forall_mem_cons.2 ⟨.inr (.inr rfl), behind⟩⟩
  cases read?_eq_some_iff.1 read with
  | exactly size => exact ofSize size
  | atLeast least nothing => exact around (ofSize least) (ofSpaces nothing)
  | atMost nothing most => exact around (ofSpaces nothing) (ofSize most)
  | between first second => exact around (ofSize first) (ofSize second)

/-! ## Bounds below a limit -/

def Below (limit : Nat) : Bound → Prop
  | .exactly n => n < limit
  | .atLeast n => n < limit
  | .atMost n => n < limit
  | .between a b => a < limit ∧ b < limit

instance decidableBelow (limit : Nat) : (bound : Bound) → Decidable (bound.Below limit)
  | .exactly n => inferInstanceAs (Decidable (n < limit))
  | .atLeast n => inferInstanceAs (Decidable (n < limit))
  | .atMost n => inferInstanceAs (Decidable (n < limit))
  | .between a b => inferInstanceAs (Decidable (a < limit ∧ b < limit))

/-- A range goes beyond the limit of its bound only up to the number of options. -/
theorem most_lt_of_below {limit : Nat} (large : 2 ≤ limit) {bound : Bound}
    (below : bound.Below limit) (optionCount : Nat) :
    (PickRange.ofBound optionCount bound).most < max limit (optionCount + 1) := by
  cases bound <;> simp only [Below, PickRange.ofBound, PickRange.between] at * <;> omega

theorem below_of_read? {limit : Nat} (large : sizeLimit ≤ limit) {t : Text} {bound : Bound}
    (read : read? t = some bound) : bound.Below limit := by
  have below : ∀ {t : Text} {n : Nat}, HoldsSize t n → n < limit :=
    fun size => Nat.lt_of_lt_of_le size.lt large
  cases read?_eq_some_iff.1 read with
  | exactly size => exact below size
  | atLeast least nothing => exact below least
  | atMost nothing most => exact below most
  | between first second => exact ⟨below first, below second⟩

/-! ## What is no bound -/

theorem count_dash_le {t : Text} {bound : Bound} (writes : WritesBound t bound) :
    t.count '-' ≤ 1 := by
  have noDash : ∀ {s : Text}, '-' ∉ s → s.count '-' = 0 := List.count_eq_zero_of_not_mem
  cases writes with
  | exactly size => rw [noDash size.dash_not_mem]; exact Nat.zero_le 1
  | atLeast least nothing =>
    rw [List.count_append, List.count_cons_self, noDash least.dash_not_mem,
      noDash (not_mem_of_spaces nothing (by decide))]
  | atMost nothing most =>
    rw [List.count_append, List.count_cons_self, noDash most.dash_not_mem,
      noDash (not_mem_of_spaces nothing (by decide))]
  | between first second =>
    rw [List.count_append, List.count_cons_self, noDash first.dash_not_mem,
      noDash second.dash_not_mem]

/-- All digits of a bound are digits of a size. -/
theorem digitsValue_lt_of_writesBound {t digits : Text} {bound : Bound}
    (writes : WritesBound t bound) (digit : ∀ c ∈ digits, isDigit c = true)
    (inside : digits <:+: t) : digitsValue digits < sizeLimit := by
  have noDash : '-' ∉ digits := fun member => absurd (digit _ member) (by decide)
  have ofSpaces : ∀ {s : Text}, (∀ c ∈ s, isSpace c = true) → digits <:+: s →
      digitsValue digits < sizeLimit := by
    intro s spaces part
    cases digits with
    | nil => decide
    | cons c digits =>
      have seen := isSpace_of_isDigit (digit c List.mem_cons_self)
      exact absurd (part.subset List.mem_cons_self) (not_mem_of_spaces spaces seen)
  cases writes with
  | exactly size => exact size.digitsValue_lt digit inside
  | atLeast least nothing =>
    exact (infix_of_infix_append_cons noDash inside).elim (least.digitsValue_lt digit)
      (ofSpaces nothing)
  | atMost nothing most =>
    exact (infix_of_infix_append_cons noDash inside).elim (ofSpaces nothing)
      (most.digitsValue_lt digit)
  | between first second =>
    exact (infix_of_infix_append_cons noDash inside).elim (first.digitsValue_lt digit)
      (second.digitsValue_lt digit)

theorem read?_eq_none_iff {t : Text} : read? t = none ↔ ∀ bound, ¬ WritesBound t bound := by
  rw [Option.eq_none_iff_forall_ne_some]
  exact forall_congr' fun bound => not_congr read?_eq_some_iff

/-- A text is read as a bound just when it writes that bound, and as none when it writes
none.  In particular it is none with a character that is neither white space nor an ASCII
digit nor a dash, with a second dash, and with digits worth 2 to the power 64 or more. -/
theorem read?_exact (t : Text) :
    (∀ bound, read? t = some bound ↔ WritesBound t bound) ∧
    (read? t = none ↔ ∀ bound, ¬ WritesBound t bound) ∧
    ((∃ c ∈ t, isSpace c = false ∧ isDigit c = false ∧ c ≠ '-') → read? t = none) ∧
    (2 ≤ t.count '-' → read? t = none) ∧
    ∀ digits, digits <:+: t → (∀ c ∈ digits, isDigit c = true) →
      sizeLimit ≤ digitsValue digits → read? t = none := by
  refine ⟨fun _ => read?_eq_some_iff, read?_eq_none_iff, ?_, ?_, ?_⟩
  · rintro ⟨c, member, seen, other, noDash⟩
    refine Option.eq_none_iff_forall_ne_some.2 fun bound read => ?_
    simpa [seen, other, noDash] using plain_of_read? read c member
  · intro dashes
    refine read?_eq_none_iff.2 fun bound writes => ?_
    have atMostOne := count_dash_le writes
    omega
  · intro digits inside digit beyond
    refine read?_eq_none_iff.2 fun bound writes => ?_
    exact absurd (digitsValue_lt_of_writesBound writes digit inside) (Nat.not_lt.2 beyond)

/-- The last size, and the first number that is none; a number that is no size does not make
the text one with the dash at its end. -/
example : read? " 018446744073709551615- ".toList = some (.atLeast 18446744073709551615) ∧
    read? "3 - 18446744073709551616".toList = none := by
  decide +kernel

end Bound

end PromptTemplate
