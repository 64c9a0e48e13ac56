/-
# PromptTemplate.Proofs.Results -- lists of results up to their first error

A list of results may hold errors among its values.  It is read from the front, so what
counts are the values in front of its first error (`LazyList.beforeError`) and that error.
Dropping repetitions drops them from those values and keeps the error; a cap takes the
first of the values or, where they are too few, runs into the error (`capped`).

When a list holds no error (`LazyList.ErrorFree`) it is the list of its values, and what
is done to results is what is done to lists: dropping repetitions, collecting, and taking
the first ones.
-/
import PromptTemplate.LazyList
import PromptTemplate.Proofs.FirstOccurrences

set_option autoImplicit false
set_option linter.unusedSectionVars false

namespace PromptTemplate

theorem except_bind_eq_ok {ε α β : Type} {x : Except ε α} {f : α → Except ε β} {b : β} :
    x >>= f = .ok b ↔ ∃ a, x = .ok a ∧ f a = .ok b := by
  cases x with
  | error e => exact ⟨nofun, nofun⟩
  | ok a =>
    constructor
    · intro same
      exact ⟨a, rfl, same⟩
    · rintro ⟨_, same, found⟩
      obtain rfl := Except.ok.inj same
      exact found

theorem except_bind_eq_error {ε α β : Type} {x : Except ε α} {f : α → Except ε β} {e : ε} :
    x >>= f = .error e ↔ x = .error e ∨ ∃ a, x = .ok a ∧ f a = .error e := by
  cases x with
  | error own =>
    constructor
    · intro failed
      exact .inl (congrArg Except.error (Except.error.inj failed))
    · rintro (same | ⟨_, impossible, _⟩)
      · exact congrArg Except.error (Except.error.inj same)
      · cases impossible
  | ok a =>
    constructor
    · intro failed
      exact .inr ⟨a, rfl, failed⟩
    · rintro (impossible | ⟨_, same, failed⟩)
      · cases impossible
      · obtain rfl := Except.ok.inj same
        exact failed

namespace LazyList

variable {ε α : Type}

def values (xs : LazyList (Except ε α)) : List α :=
  xs.toList.filterMap Except.toOption

def ErrorFree (xs : LazyList (Except ε α)) : Prop :=
  ∀ e, .error e ∉ xs.toList

theorem errorFree_of_toList {xs : LazyList (Except ε α)} {vs : List α}
    (all : xs.toList = vs.map .ok) : xs.ErrorFree := by
  intro e member
  rw [all] at member
  obtain ⟨v, -, impossible⟩ := List.mem_map.1 member
  cases impossible

theorem ErrorFree.toList_eq {xs : LazyList (Except ε α)} (free : xs.ErrorFree) :
    xs.toList = xs.values.map .ok := by
  induction xs with
  | nil => rfl
  | cons result tail ih =>
    have later := ih () fun e member => free e (List.mem_cons_of_mem _ member)
    cases result with
    | error e => exact absurd List.mem_cons_self (free e)
    | ok v =>
      have unfolded : (cons (.ok v) tail).values = v :: (tail ()).values := rfl
      rw [toList_cons, later, unfolded, List.map_cons]

theorem ok_mem_toList_iff {xs : LazyList (Except ε α)} (free : xs.ErrorFree) (v : α) :
    .ok v ∈ xs.toList ↔ v ∈ xs.values := by
  rw [free.toList_eq]
  constructor
  · intro member
    obtain ⟨u, inside, same⟩ := List.mem_map.1 member
    exact Except.ok.inj same ▸ inside
  · exact List.mem_map_of_mem

/-! ## In front of the first error -/

def beforeError : LazyList (Except ε α) → List α
  | nil => []
  | cons (.error _) _ => []
  | cons (.ok a) tail => a :: (tail ()).beforeError

def firstError? : LazyList (Except ε α) → Option ε
  | nil => none
  | cons (.error e) _ => some e
  | cons (.ok _) tail => (tail ()).firstError?

theorem toList_of_firstError? {xs : LazyList (Except ε α)} (free : xs.firstError? = none) :
    xs.toList = xs.beforeError.map .ok := by
  induction xs with
  | nil => rfl
  | cons result tail ih =>
    cases result with
    | error e => cases free
    | ok v =>
      have later := ih () free
      rw [toList_cons, later]
      rfl

theorem beforeError_of_values {xs : LazyList (Except ε α)} {vs : List α}
    (all : xs.toList = vs.map .ok) : xs.beforeError = vs ∧ xs.firstError? = none := by
  induction xs generalizing vs with
  | nil =>
    have none : vs = [] := by simpa using all.symm
    exact ⟨none.symm, rfl⟩
  | cons result tail ih =>
    cases vs with
    | nil => cases all
    | cons v vs =>
      obtain ⟨rfl, rest⟩ := List.cons.inj all
      obtain ⟨values, free⟩ := ih () rest
      exact ⟨congrArg (v :: ·) values, free⟩

theorem beforeError_of_error {xs : LazyList (Except ε α)} {vs : List α} {e : ε}
    {behind : List (Except ε α)} (all : xs.toList = vs.map .ok ++ .error e :: behind) :
    xs.beforeError = vs ∧ xs.firstError? = some e := by
  induction xs generalizing vs with
  | nil => simp at all
  | cons result tail ih =>
    cases vs with
    | nil =>
      obtain ⟨rfl, -⟩ := List.cons.inj all
      exact ⟨rfl, rfl⟩
    | cons v vs =>
      obtain ⟨rfl, rest⟩ := List.cons.inj all
      obtain ⟨values, found⟩ := ih () rest
      exact ⟨congrArg (v :: ·) values, found⟩

/-! ## Caps -/

/-- The first values, so many of them; or all, and then the error behind them. -/
def capped (values : List α) (failure : Option ε) (most : Nat) : Except ε (List α) :=
  if most ≤ values.length then .ok (values.take most)
  else
    match failure with
    | none => .ok values
    | some e => .error e

theorem capped_eq_ok_iff {values found : List α} {failure : Option ε} {most : Nat} :
    capped values failure most = .ok found ↔
      found = values.take most ∧ (values.length < most → failure = none) := by
  unfold capped
  split
  · rename_i enough
    have noError : ¬ values.length < most := Nat.not_lt.2 enough
    simp only [Except.ok.injEq, noError, false_implies, and_true, eq_comm]
  · rename_i few
    rw [Nat.not_le] at few
    rw [List.take_of_length_le (Nat.le_of_lt few)]
    cases failure with
    | none => simp [eq_comm]
    | some e => simp [few]

/-- An error is seen only if the values in front of it do not fill the cap. -/
theorem capped_eq_error_iff {values : List α} {failure : Option ε} {most : Nat} {e : ε} :
    capped values failure most = .error e ↔ values.length < most ∧ failure = some e := by
  unfold capped
  split
  · rename_i enough
    simp [Nat.not_lt.2 enough]
  · rename_i few
    cases failure <;> simp [Nat.not_le.1 few]

theorem capped_zero (values : List α) (failure : Option ε) :
    capped values failure 0 = .ok [] := rfl

theorem capped_cons (v : α) (values : List α) (failure : Option ε) (most : Nat) :
    capped (v :: values) failure (most + 1) = (capped values failure most).map (v :: ·) := by
  unfold capped
  by_cases enough : most ≤ values.length
  · rw [if_pos (by simpa using enough), if_pos enough]
    rfl
  · rw [if_neg (by simpa using enough), if_neg enough]
    cases failure with
    | none => rfl
    | some e => rfl

theorem takeOk_eq_capped (xs : LazyList (Except ε α)) (most : Nat) :
    xs.takeOk most = capped xs.beforeError xs.firstError? most := by
  fun_induction takeOk most xs with
  | case1 => rfl
  | case2 => rfl
  | case3 => rfl
  | case4 a tail =>
    rw [beforeError, capped_cons, capped_zero]
    rfl
  | case5 n a tail ih => rw [ih, beforeError, firstError?, capped_cons]

/-! ## Operations on results -/

section Distinct

variable [BEq α] [LawfulBEq α]

theorem error_mem_distinctFrom_iff (seen : List α) (xs : LazyList (Except ε α)) (e : ε) :
    .error e ∈ (xs.distinctFrom seen).toList ↔ .error e ∈ xs.toList := by
  induction xs generalizing seen with
  | nil => rfl
  | cons result tail ih =>
    cases result with
    | error e' => simp [distinctFrom, ih ()]
    | ok v =>
      by_cases before : seen.contains v = true
      · rw [distinctFrom, if_pos before, ih ()]
        simp
      · rw [distinctFrom, if_neg before]
        simp [ih ()]

/-- Dropping repetitions drops no error. -/
theorem errorFree_distinct_iff (xs : LazyList (Except ε α)) :
    xs.distinct.ErrorFree ↔ xs.ErrorFree :=
  forall_congr' fun e => not_congr (error_mem_distinctFrom_iff [] xs e)

/-- Dropping repetitions drops the values seen or repeated in front of the first error,
and keeps the error. -/
theorem beforeError_distinctFrom (seen : List α) (xs : LazyList (Except ε α)) :
    (xs.distinctFrom seen).beforeError =
        (xs.beforeError.filter fun v => !seen.contains v).eraseDups ∧
      (xs.distinctFrom seen).firstError? = xs.firstError? := by
  induction xs generalizing seen with
  | nil => exact ⟨rfl, rfl⟩
  | cons result tail ih =>
    cases result with
    | error e => exact ⟨rfl, rfl⟩
    | ok v =>
      by_cases before : seen.contains v = true
      · rw [distinctFrom, if_pos before, beforeError,
          List.filter_cons_of_neg (by simpa using before)]
        exact ih () seen
      · have fewer : ((tail ()).beforeError.filter fun u => !(v :: seen).contains u) =
            ((tail ()).beforeError.filter fun u => !seen.contains u).filter fun u => !u == v := by
          rw [List.filter_filter]
          apply List.filter_congr
          intro u _
          rw [List.contains_cons, Bool.not_or]
        obtain ⟨values, same⟩ := ih () (v :: seen)
        rw [distinctFrom, if_neg before, beforeError, beforeError, values, fewer,
          List.filter_cons_of_pos (by simpa using before), List.eraseDups_cons]
        exact ⟨rfl, same⟩

/-- Dropping repetitions leaves the first error where it is. -/
theorem beforeError_distinct (xs : LazyList (Except ε α)) :
    xs.distinct.beforeError = xs.beforeError.eraseDups ∧
      xs.distinct.firstError? = xs.firstError? := by
  have unseen : (xs.beforeError.filter fun v => !([] : List α).contains v) = xs.beforeError :=
    List.filter_eq_self.2 fun _ _ => rfl
  have spread := beforeError_distinctFrom [] xs
  rwa [unseen] at spread

theorem toList_distinct {xs : LazyList (Except ε α)} {vs : List α}
    (all : xs.toList = vs.map .ok) : xs.distinct.toList = vs.eraseDups.map .ok := by
  obtain ⟨rfl, free⟩ := beforeError_of_values all
  obtain ⟨values, same⟩ := beforeError_distinct xs
  rw [toList_of_firstError? (same.trans free), values]

end Distinct

theorem collect_of_toList {xs : LazyList (Except ε α)} {vs : List α}
    (all : xs.toList = vs.map .ok) : xs.collect = .ok vs := by
  induction xs generalizing vs with
  | nil =>
    have none : vs = [] := by simpa using all.symm
    rw [none, collect]
  | cons result tail ih =>
    cases vs with
    | nil => cases all
    | cons v vs =>
      obtain ⟨rfl, rest⟩ := List.cons.inj all
      rw [collect, ih () rest]
      rfl

theorem errorFree_of_collect {xs : LazyList (Except ε α)} {vs : List α}
    (collected : xs.collect = .ok vs) : xs.ErrorFree := by
  induction xs generalizing vs with
  | nil => exact fun _ => List.not_mem_nil
  | cons result tail ih =>
    cases result with
    | error e => cases collected
    | ok a =>
      rw [collect] at collected
      cases rest : (tail ()).collect with
      | error e =>
        rw [rest] at collected
        cases collected
      | ok later =>
        intro e member
        rcases List.mem_cons.1 member with impossible | behind
        · cases impossible
        · exact ih () rest e behind

theorem takeOk_of_toList {xs : LazyList (Except ε α)} {vs : List α} (most : Nat)
    (all : xs.toList = vs.map .ok) : xs.takeOk most = .ok (vs.take most) := by
  obtain ⟨rfl, free⟩ := beforeError_of_values all
  rw [takeOk_eq_capped, capped_eq_ok_iff]
  exact ⟨rfl, fun _ => free⟩

end LazyList

end PromptTemplate
