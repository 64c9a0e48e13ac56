/-
# PromptTemplate.Proofs.Template.Tidying -- what tidying a group comes to

Every run of white space is tidied by itself: it goes when the character in front of it or
the one behind it absorbs white space, and becomes one space otherwise (`TidiedRuns`).  A
text may be taken apart at its runs in any order; all of them lead to the same text, the
normalized one (`tidiedRuns_iff`).

The normalized text is also what two passes over the whole text make of it, the first of
which makes every run one space and the second of which drops the white space around each
character that absorbs it (`absorber_spaceRun`).  In the second pass a match takes white
space with it that the next match would have started with, which makes no difference: the
characters on both sides of it absorb it.

Tidying changes nothing but white space, so the brackets of a text are nested as they were.
-/
import PromptTemplate.Proofs.Template.Faults
import PromptTemplate.Proofs.Template.Words

set_option autoImplicit false

namespace PromptTemplate

namespace Text

/-! ## Replacing matches -/

/-- What matches at the front of a text: the replacement, and the text behind the match.
No match is empty. -/
structure Pattern where
  matched? : Text → Option (Text × Text)
  shorter : ∀ {t replacement behind}, matched? t = some (replacement, behind) →
    behind.length < t.length

namespace Pattern

/-- The text with the matches of the pattern replaced, from left to right: the search goes
on behind a match, and one character further on where nothing matches. -/
def replaceAll (pattern : Pattern) : Text → Text
  | [] => []
  | c :: rest =>
    match _found : pattern.matched? (c :: rest) with
    | some (replacement, behind) => replacement ++ pattern.replaceAll behind
    | none => c :: pattern.replaceAll rest
termination_by t => t.length
decreasing_by
  · exact pattern.shorter _found
  · exact Nat.lt_succ_self rest.length

variable {pattern : Pattern} {c : Char} {rest : Text}

@[simp] theorem replaceAll_nil : pattern.replaceAll [] = [] := by
  rw [replaceAll]

theorem replaceAll_of_some {replacement behind : Text}
    (found : pattern.matched? (c :: rest) = some (replacement, behind)) :
    pattern.replaceAll (c :: rest) = replacement ++ pattern.replaceAll behind := by
  rw [replaceAll]
  split
  · rename_i found'
    obtain ⟨rfl, rfl⟩ := Prod.mk.inj (Option.some.inj (found.symm.trans found'))
    rfl
  · rename_i none
    rw [none] at found
    cases found

theorem replaceAll_of_none (none : pattern.matched? (c :: rest) = none) :
    pattern.replaceAll (c :: rest) = c :: pattern.replaceAll rest := by
  rw [replaceAll]
  split
  · rename_i found
    rw [none] at found
    cases found
  · rfl

end Pattern

end Text

namespace Template

open Text (Pattern isSpace length_trimStart_le trimStart trimStart_cases trimStart_cons_of_space
  trimStart_cons_of_visible visible visible_cons_of_space visible_cons_of_visible)

/-! ## Two passes -/

/-- A run of white space, for which one space stands. -/
def spaceRun : Pattern where
  matched? t :=
    match t with
    | [] => none
    | c :: rest => if isSpace c then some ([' '], trimStart rest) else none
  shorter := by
    intro t replacement behind found
    cases t with
    | nil => cases found
    | cons c rest =>
      dsimp only at found
      split at found
      · obtain ⟨-, rfl⟩ := Prod.mk.inj (Option.some.inj found)
        exact Nat.lt_succ_of_le (length_trimStart_le rest)
      · cases found

/-- A character that absorbs white space, with the white space on both sides of it, for which the
character stands. -/
def absorber : Pattern where
  matched? t :=
    match trimStart t with
    | [] => none
    | c :: rest => if absorbsSpace c then some ([c], trimStart rest) else none
  shorter := by
    intro t replacement behind found
    split at found
    · cases found
    · rename_i c rest shape
      split at found
      · obtain ⟨-, rfl⟩ := Prod.mk.inj (Option.some.inj found)
        calc (trimStart rest).length ≤ rest.length := length_trimStart_le rest
          _ < (trimStart t).length := by rw [shape]; exact Nat.lt_succ_self _
          _ ≤ t.length := length_trimStart_le t
      · cases found

theorem isSpace_of_absorbsSpace {c : Char} (absorbs : absorbsSpace c = true) :
    isSpace c = false := by
  simp only [absorbsSpace, Bool.or_eq_true, beq_iff_eq] at absorbs
  rcases absorbs with (rfl | rfl) | rfl <;> decide

section Passes

variable {c : Char}

theorem spaceRun_space (space : isSpace c = true) (t : Text) :
    spaceRun.replaceAll (c :: t) = ' ' :: spaceRun.replaceAll (trimStart t) := by
  have found : spaceRun.matched? (c :: t) = some ([' '], trimStart t) := if_pos space
  rw [Pattern.replaceAll_of_some found, List.singleton_append]

theorem spaceRun_visible (seen : isSpace c = false) (t : Text) :
    spaceRun.replaceAll (c :: t) = c :: spaceRun.replaceAll t :=
  Pattern.replaceAll_of_none (if_neg (by simp [seen]))

/-- The first pass leaves the leading white space to itself. -/
theorem trimStart_spaceRun (t : Text) :
    trimStart (spaceRun.replaceAll t) = spaceRun.replaceAll (trimStart t) := by
  have trimmed : trimStart (spaceRun.replaceAll (trimStart t)) =
      spaceRun.replaceAll (trimStart t) := by
    rcases trimStart_cases t with nothing | ⟨c, rest, shape, seen⟩
    · rw [nothing, Pattern.replaceAll_nil]
      rfl
    · rw [shape, spaceRun_visible seen, trimStart_cons_of_visible _ seen]
  cases t with
  | nil => exact trimmed
  | cons c t =>
    by_cases space : isSpace c = true
    · rw [trimStart_cons_of_space space] at trimmed ⊢
      rw [spaceRun_space space, trimStart_cons_of_space (by decide), trimmed]
    · rwa [trimStart_cons_of_visible t (Bool.eq_false_iff.2 space)] at trimmed ⊢

theorem absorber_absorbs (absorbs : absorbsSpace c = true) (t : Text) :
    absorber.replaceAll (c :: t) = c :: absorber.replaceAll (trimStart t) := by
  have found : absorber.matched? (c :: t) = some ([c], trimStart t) := by
    simp only [absorber, trimStart_cons_of_visible t (isSpace_of_absorbsSpace absorbs), absorbs,
      if_true]
  rw [Pattern.replaceAll_of_some found, List.singleton_append]

theorem absorber_visible (seen : isSpace c = false) (other : absorbsSpace c = false) (t : Text) :
    absorber.replaceAll (c :: t) = c :: absorber.replaceAll t := by
  refine Pattern.replaceAll_of_none ?_
  simp [absorber, trimStart_cons_of_visible t seen, other]

/-- White space goes with the character behind it when that absorbs it. -/
theorem absorber_space_absorbs (absorbs : absorbsSpace c = true) (t : Text) :
    absorber.replaceAll (' ' :: c :: t) = absorber.replaceAll (c :: t) := by
  have space : isSpace ' ' = true := by decide
  have found : absorber.matched? (' ' :: c :: t) = some ([c], trimStart t) := by
    simp only [absorber, trimStart_cons_of_space space,
      trimStart_cons_of_visible t (isSpace_of_absorbsSpace absorbs), absorbs, if_true]
  rw [absorber_absorbs absorbs, Pattern.replaceAll_of_some found, List.singleton_append]

theorem absorber_space_visible (seen : isSpace c = false) (other : absorbsSpace c = false)
    (t : Text) : absorber.replaceAll (' ' :: c :: t) = ' ' :: absorber.replaceAll (c :: t) := by
  have space : isSpace ' ' = true := by decide
  refine Pattern.replaceAll_of_none ?_
  simp [absorber, trimStart_cons_of_space space, trimStart_cons_of_visible t seen, other]

end Passes

/-- The two passes make of a text what tidying makes of it: from its front on, behind a
character that absorbs, and behind white space that nothing in front of it absorbs. -/
theorem passes_eq_tidyFrom (t : Text) :
    absorber.replaceAll (spaceRun.replaceAll t) = tidyFrom false false t ∧
    (∀ passed, absorber.replaceAll (spaceRun.replaceAll (trimStart t)) = tidyFrom true passed t) ∧
    absorber.replaceAll (' ' :: spaceRun.replaceAll (trimStart t)) = tidyFrom false true t := by
  induction t with
  | nil =>
    refine ⟨?_, fun passed => ?_, ?_⟩
    · simp [tidyFrom]
    · simp [tidyFrom, trimStart]
    · rw [trimStart, List.dropWhile_nil, Pattern.replaceAll_nil,
        Pattern.replaceAll_of_none (by rfl), Pattern.replaceAll_nil]
      rfl
  | cons c t ih =>
    obtain ⟨front, absorbed, passed⟩ := ih
    by_cases space : isSpace c = true
    · simp only [trimStart_cons_of_space space, spaceRun_space space, tidyFrom, if_pos space]
      exact ⟨passed, fun _ => absorbed true, passed⟩
    have seen := Bool.eq_false_iff.2 space
    rw [trimStart_cons_of_visible t seen, spaceRun_visible seen]
    by_cases absorbs : absorbsSpace c = true
    · -- the character takes the white space on both sides with it
      have kept : absorber.replaceAll (c :: spaceRun.replaceAll t) =
          c :: tidyFrom true false t := by
        rw [absorber_absorbs absorbs, trimStart_spaceRun, absorbed false]
      simp only [tidyFrom, if_neg space, if_pos absorbs]
      exact ⟨kept, fun _ => kept, (absorber_space_absorbs absorbs _).trans kept⟩
    · have other := Bool.eq_false_iff.2 absorbs
      have kept : absorber.replaceAll (c :: spaceRun.replaceAll t) =
          c :: tidyFrom false false t := by
        rw [absorber_visible seen other, front]
      simp only [tidyFrom, if_neg space, if_neg absorbs]
      refine ⟨by simpa using kept, fun _ => by simpa using kept, ?_⟩
      rw [absorber_space_visible seen other, kept]
      rfl

/-- The two passes normalize. -/
theorem absorber_spaceRun (g : Text) :
    absorber.replaceAll (spaceRun.replaceAll g) = normalizeGroup g :=
  (passes_eq_tidyFrom g).1

/-! ## Run by run -/

/-- White space that no further white space stands beside. -/
structure MaximalRun (front run back : Text) : Prop where
  nonempty : run ≠ []
  space : ∀ c ∈ run, isSpace c = true
  visible_before : ∀ c, front.getLast? = some c → isSpace c = false
  visible_behind : ∀ c, back.head? = some c → isSpace c = false

/-- What becomes of the white space between two texts. -/
def gap (front back : Text) : Text :=
  if front.getLast?.any absorbsSpace || back.head?.any absorbsSpace then [] else [' ']

/-- The second text is the first one with every run of white space tidied. -/
inductive TidiedRuns : Text → Text → Prop where
  | visible {t : Text} (seen : ∀ c ∈ t, isSpace c = false) : TidiedRuns t t
  | run {front run back front' back' : Text} (maximal : MaximalRun front run back)
      (before : TidiedRuns front front') (behind : TidiedRuns back back') :
      TidiedRuns (front ++ run ++ back) (front' ++ gap front back ++ back')

/-- Only the last visible character of a text matters to what follows it. -/
theorem tidyFrom_append_cons {c : Char} (seen : isSpace c = false) (absorbed passed : Bool)
    (s t : Text) :
    tidyFrom absorbed passed (s ++ c :: t) =
      tidyFrom absorbed passed (s ++ [c]) ++ tidyFrom (absorbsSpace c) false t := by
  induction s generalizing absorbed passed with
  | nil =>
    simp only [List.nil_append, tidyFrom, seen, Bool.false_eq_true, if_false, Bool.false_and]
    split
    · rename_i absorbs
      rw [absorbs]
      rfl
    · rename_i other
      rw [Bool.eq_false_iff.2 other]
      split
      · rfl
      · rfl
  | cons d s ih =>
    simp only [List.cons_append, tidyFrom]
    split
    · exact ih absorbed true
    · split
      · rw [ih, List.cons_append]
      · split
        · rw [ih, List.cons_append, List.cons_append]
        · rw [ih, List.cons_append]

/-- However long it is, white space is passed at once. -/
theorem tidyFrom_run {run : Text} (nonempty : run ≠ []) (space : ∀ c ∈ run, isSpace c = true)
    (absorbed passed : Bool) (t : Text) :
    tidyFrom absorbed passed (run ++ t) = tidyFrom absorbed true t := by
  induction run generalizing passed with
  | nil => exact absurd rfl nonempty
  | cons c run ih =>
    obtain ⟨here, space⟩ := List.forall_mem_cons.1 space
    rw [List.cons_append, tidyFrom, if_pos here]
    cases run with
    | nil => rfl
    | cons d run => exact ih (List.cons_ne_nil d run) space true

/-- Behind white space the next visible character decides. -/
theorem tidyFrom_true (absorbed : Bool) {back : Text}
    (seen : ∀ c, back.head? = some c → isSpace c = false) :
    tidyFrom absorbed true back =
      (if absorbed || back.head?.any absorbsSpace then [] else [' ']) ++ normalizeGroup back := by
  cases back with
  | nil => cases absorbed <;> rfl
  | cons c rest =>
    have visible := seen c rfl
    simp only [normalizeGroup, tidyFrom, visible, Bool.false_eq_true, if_false, List.head?_cons,
      Option.any_some]
    by_cases absorbs : absorbsSpace c = true
    · simp [absorbs]
    · cases absorbed <;> simp [absorbs]

/-- A run of white space is tidied by itself. -/
theorem normalizeGroup_run {front run back : Text} (maximal : MaximalRun front run back) :
    normalizeGroup (front ++ run ++ back) =
      normalizeGroup front ++ gap front back ++ normalizeGroup back := by
  have behind : ∀ absorbed, tidyFrom absorbed false (run ++ back) =
      (if absorbed || back.head?.any absorbsSpace then [] else [' ']) ++ normalizeGroup back :=
    fun absorbed => (tidyFrom_run maximal.nonempty maximal.space absorbed false back).trans
      (tidyFrom_true absorbed maximal.visible_behind)
  rcases List.eq_nil_or_concat front with rfl | ⟨s, c, rfl⟩
  · rw [List.nil_append, normalizeGroup, behind]
    rfl
  · have seen : isSpace c = false := maximal.visible_before c (by simp)
    rw [normalizeGroup, List.concat_eq_append, List.append_assoc, List.append_assoc,
      List.singleton_append, tidyFrom_append_cons seen, behind, ← List.append_assoc]
    simp [gap, normalizeGroup]

theorem normalizeGroup_of_visible {t : Text} (seen : ∀ c ∈ t, isSpace c = false) :
    normalizeGroup t = t := by
  have kept : ∀ absorbed, tidyFrom absorbed false t = t := by
    induction t with
    | nil => exact fun _ => rfl
    | cons c t ih =>
      obtain ⟨here, seen⟩ := List.forall_mem_cons.1 seen
      intro absorbed
      simp only [tidyFrom, here, Bool.false_eq_true, if_false, ih seen, Bool.false_and, ite_self]
  exact kept false

/-- The first run of white space of a text, with no white space in front of it. -/
theorem exists_maximalRun {t : Text} (spaced : ∃ c ∈ t, isSpace c = true) :
    ∃ front run back, t = front ++ run ++ back ∧ (∀ c ∈ front, isSpace c = false) ∧
      MaximalRun front run back := by
  induction t with
  | nil => simp at spaced
  | cons c t ih =>
    by_cases space : isSpace c = true
    · refine ⟨[], c :: t.takeWhile isSpace, trimStart t, ?_, by simp, ?_⟩
      · simp [trimStart]
      · refine ⟨List.cons_ne_nil _ _, ?_, by simp, fun d first => ?_⟩
        · exact List.forall_mem_cons.2 ⟨space, fun d member => List.mem_takeWhile_imp member⟩
        · rcases trimStart_cases t with nothing | ⟨e, rest, shape, seen⟩
          · simp [nothing] at first
          · rw [shape] at first
            exact Option.some.inj first ▸ seen
    · have later : ∃ c ∈ t, isSpace c = true := by simpa [space] using spaced
      obtain ⟨front, run, back, rfl, visible, maximal⟩ := ih later
      have seen : ∀ d ∈ c :: front, isSpace d = false :=
        List.forall_mem_cons.2 ⟨Bool.eq_false_iff.2 space, visible⟩
      refine ⟨c :: front, run, back, rfl, seen, maximal.nonempty, maximal.space, ?_,
        maximal.visible_behind⟩
      exact fun d last => seen d (List.mem_of_getLast? last)

theorem tidiedRuns_normalizeGroup (g : Text) : TidiedRuns g (normalizeGroup g) := by
  induction length : g.length using Nat.strong_induction_on generalizing g with
  | _ size shorter =>
    by_cases spaced : ∃ c ∈ g, isSpace c = true
    · obtain ⟨front, run, back, rfl, seen, maximal⟩ := exists_maximalRun spaced
      have less : back.length < size := by
        have positive := List.length_pos_iff.2 maximal.nonempty
        simp only [List.length_append] at length
        omega
      have before := TidiedRuns.visible seen
      rw [normalizeGroup_run maximal, normalizeGroup_of_visible seen]
      exact .run maximal before (shorter back.length less back rfl)
    · have seen : ∀ c ∈ g, isSpace c = false := fun c member =>
        Bool.eq_false_iff.2 fun space => spaced ⟨c, member, space⟩
      rw [normalizeGroup_of_visible seen]
      exact .visible seen

/-- In whatever order runs are tidied, the normalized text comes out. -/
theorem tidiedRuns_iff {g t : Text} : TidiedRuns g t ↔ t = normalizeGroup g := by
  constructor
  · intro tidied
    induction tidied with
    | visible seen => exact (normalizeGroup_of_visible seen).symm
    | run maximal _ _ before behind => rw [normalizeGroup_run maximal, before, behind]
  · rintro rfl
    exact tidiedRuns_normalizeGroup g

/-! ## Brackets -/

theorem openBehind_of_space {c : Char} (space : isSpace c = true) (opened : List Char) (t : Text) :
    openBehind opened (c :: t) = openBehind opened t := by
  obtain ⟨opens, closes⟩ := no_bracket_of_space space
  exact openBehind_of_other opens closes t

/-- White space opens and closes nothing. -/
theorem openBehind_visible (opened : List Char) (t : Text) :
    openBehind opened (visible t) = openBehind opened t := by
  induction t generalizing opened with
  | nil => rfl
  | cons c t ih =>
    by_cases space : isSpace c = true
    · rw [visible_cons_of_space space, openBehind_of_space space, ih]
    · rw [visible_cons_of_visible (Bool.eq_false_iff.2 space)]
      simp only [openBehind, ih]

/-- Tidying opens and closes no bracket. -/
theorem openBehind_normalizeGroup (opened : List Char) (g : Text) :
    openBehind opened (normalizeGroup g) = openBehind opened g := by
  rw [← openBehind_visible, normalizeGroup, visible_tidyFrom, openBehind_visible]

/-- The text starts with a bracket, and ends where that is closed. -/
def IsBracketed (t : Text) : Prop :=
  ∃ opener closer body, closerOf? opener = some closer ∧ t = opener :: body ∧
    splitGroup [closer] body = (body, .closed [])

theorem IsBracketed.normalizeGroup {g : Text} (bracketed : IsBracketed g) :
    IsBracketed (normalizeGroup g) := by
  obtain ⟨opener, closer, body, brackets, rfl, closed⟩ := bracketed
  exact ⟨opener, closer, _, brackets, normalizeGroup_cons brackets body,
    splitGroup_tidyFrom _ false closed⟩

/-- The normalized text is the text with every run of white space tidied by itself, in
whatever order, and with nothing else changed; two passes from left to right give it as well.
So normalizing once is enough, the same brackets are open behind the text as before, and a
text between brackets is one still. -/
theorem normalizeGroup_run_by_run (g : Text) :
    (∀ t, TidiedRuns g t ↔ t = normalizeGroup g) ∧
    absorber.replaceAll (spaceRun.replaceAll g) = normalizeGroup g ∧
    visible (normalizeGroup g) = visible g ∧
    normalizeGroup (normalizeGroup g) = normalizeGroup g ∧
    (∀ opened, openBehind opened (normalizeGroup g) = openBehind opened g) ∧
    (IsBracketed g → IsBracketed (normalizeGroup g)) :=
  ⟨fun _ => tidiedRuns_iff, absorber_spaceRun g, visible_tidyFrom false false g,
    tidyFrom_tidyFrom false false g, fun opened => openBehind_normalizeGroup opened g,
    IsBracketed.normalizeGroup⟩

/-- Square brackets absorb nothing. -/
example : normalizeGroup " ( a :\u2003b ) [ c \t d ] ".toList = "(a:b)[ c d ] ".toList := by
  decide

end Template

end PromptTemplate
