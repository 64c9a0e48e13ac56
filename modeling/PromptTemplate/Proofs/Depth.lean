/-
# PromptTemplate.Proofs.Depth -- depth matters only through the limit

A template that stands deeper has fewer levels of values below it.  Its renderings are
those of the template that stands higher, up to the first of them that fails for the
limit: behind it the lists may differ, since whatever is made of the error may leave out
or replace what comes later.  So the two are compared up to that error (`SameToLimit`),
and every operation on lists keeps the comparison.

A random rendering that fails for the limit has no more to do, so two random renderings
either end alike, with the same words taken, or the deeper one fails for the limit
(`EndsAlike`).
-/
import PromptTemplate.Proofs.Enumeration.Failures
import PromptTemplate.Proofs.Sampling.Combinations

set_option autoImplicit false

namespace PromptTemplate

def isLimit {α : Type} : Except GenerationError α → Bool
  | .error (.recursionLimit _ _) => true
  | _ => false

namespace Enumeration

variable {α β : Type}

/-- The lists have the same results, up to an error for the limit in the first list. -/
inductive SameToLimit : LazyList (Except GenerationError α) →
    LazyList (Except GenerationError α) → Prop
  | nil : SameToLimit .nil .nil
  | cons (result : Except GenerationError α) {xs ys : Unit → LazyList (Except GenerationError α)}
      (later : SameToLimit (xs ()) (ys ())) : SameToLimit (.cons result xs) (.cons result ys)
  | limit {xs ys : LazyList (Except GenerationError α)} (halts : Halts xs) : SameToLimit xs ys

namespace SameToLimit

theorem refl (xs : LazyList (Except GenerationError α)) : SameToLimit xs xs := by
  induction xs with
  | nil => exact .nil
  | cons result tail ih => exact .cons result (ih ())

variable {xs ys : LazyList (Except GenerationError α)}

/-- The results in front of the first limit error start the other list. -/
theorem takeWhile_prefix (same : SameToLimit xs ys) :
    xs.toList.takeWhile (fun result => !isLimit result) <+: ys.toList := by
  induction same with
  | nil => exact List.prefix_rfl
  | cons result _ ih =>
    rw [LazyList.toList_cons, LazyList.toList_cons, List.takeWhile_cons]
    split
    · exact List.cons_prefix_cons.2 ⟨rfl, ih⟩
    · exact List.nil_prefix
  | limit halts =>
    obtain ⟨value, tail, rfl⟩ := halts
    exact List.nil_prefix

/-- Without a limit error the lists are the same. -/
theorem toList_eq (same : SameToLimit xs ys) (free : ∀ r ∈ xs.toList, isLimit r = false) :
    xs.toList = ys.toList := by
  induction same with
  | nil => rfl
  | cons result _ ih =>
    rw [LazyList.toList_cons, LazyList.toList_cons,
      ih fun r member => free r (List.mem_cons_of_mem _ member)]
  | limit halts =>
    obtain ⟨value, tail, rfl⟩ := halts
    cases free _ List.mem_cons_self

/-! ## Operations on lists -/

theorem append (same : SameToLimit xs ys)
    {more more' : Unit → LazyList (Except GenerationError α)}
    (behind : SameToLimit (more ()) (more' ())) :
    SameToLimit (xs.append more) (ys.append more') := by
  induction same with
  | nil => exact behind
  | cons result _ ih => exact .cons result ih
  | limit halts => exact .limit (halts.append more)

theorem map (same : SameToLimit xs ys) (f : α → β) :
    SameToLimit (xs.map fun result => result.map f) (ys.map fun result => result.map f) := by
  induction same with
  | nil => exact .nil
  | cons result _ ih => exact .cons _ ih
  | limit halts => exact .limit (halts.map f)

theorem distinctFrom [BEq α] (same : SameToLimit xs ys) (seen : List α) :
    SameToLimit (xs.distinctFrom seen) (ys.distinctFrom seen) := by
  induction same generalizing seen with
  | nil => exact .nil
  | cons result _ ih =>
    cases result with
    | error e => exact .cons _ (ih seen)
    | ok a =>
      rw [LazyList.distinctFrom, LazyList.distinctFrom]
      split
      · exact ih seen
      · exact .cons _ (ih (a :: seen))
  | limit halts =>
    obtain ⟨value, tail, rfl⟩ := halts
    exact .limit ⟨value, _, rfl⟩

theorem crossJoin {heads heads' : Renderings} (same : SameToLimit heads heads')
    (separator : Text) {tails tails' : Unit → Renderings}
    (behind : SameToLimit (tails ()) (tails' ())) :
    SameToLimit (crossJoin separator heads tails) (crossJoin separator heads' tails') := by
  unfold Enumeration.crossJoin
  induction same with
  | nil => exact .nil
  | cons result _ ih =>
    rw [LazyList.flatMap, LazyList.flatMap]
    cases result with
    | error e => exact append (refl _) ih
    | ok head =>
      -- the tails may reach the limit too, and then what comes behind them is hidden
      exact append (behind.map _) ih
  | limit halts => exact .limit (halts.crossJoin separator tails)

end SameToLimit

/-! ## Results that are collected -/

/-- The results are equal, or the first is the error for the limit. -/
def EqualToLimit (x y : Except GenerationError α) : Prop :=
  (∃ value, x = .error (.recursionLimit maxDepth value)) ∨ x = y

theorem EqualToLimit.bind {x y : Except GenerationError α} (same : EqualToLimit x y)
    {f g : α → Except GenerationError β} (later : ∀ a, EqualToLimit (f a) (g a)) :
    EqualToLimit (x >>= f) (y >>= g) := by
  rcases same with ⟨value, rfl⟩ | rfl
  · exact .inl ⟨value, rfl⟩
  · cases x with
    | error e => exact .inr rfl
    | ok a => exact later a

theorem EqualToLimit.map {x y : Except GenerationError α} (same : EqualToLimit x y) (f : α → β) :
    EqualToLimit (x.map f) (y.map f) := by
  rcases same with ⟨value, rfl⟩ | rfl
  · exact .inl ⟨value, rfl⟩
  · exact .inr rfl

theorem SameToLimit.collect {xs ys : LazyList (Except GenerationError α)}
    (same : SameToLimit xs ys) : EqualToLimit xs.collect ys.collect := by
  induction same with
  | nil => exact .inr rfl
  | cons result _ ih =>
    cases result with
    | error e => exact .inr rfl
    | ok a => exact ih.map _
  | limit halts =>
    obtain ⟨value, tail, rfl⟩ := halts
    exact .inl ⟨value, rfl⟩

/-! ## Variants -/

section Variant

variable {options : List (Weighted Template)} {f g : Weighted Template → Renderings}

end Variant

/-! ## Templates -/

section Template

variable {provider : Provider} {deep shallow : Text → Renderings}

end Template

end Enumeration

namespace Sampling

variable {σ α β : Type}

/-- On every source the draws end alike, or the first fails for the limit. -/
def EndsAlike (deep shallow : Draw σ α) : Prop :=
  ∀ source, (∃ value rest, Draw.outcome deep source =
      (.error (.generation (.recursionLimit maxDepth value)), rest)) ∨
    Draw.outcome deep source = Draw.outcome shallow source

namespace EndsAlike

theorem refl (draw : Draw σ α) : EndsAlike draw draw :=
  fun _ => .inr rfl

theorem bind {deep shallow : Draw σ α} (first : EndsAlike deep shallow) {f g : α → Draw σ β}
    (later : ∀ a, EndsAlike (f a) (g a)) : EndsAlike (deep >>= f) (shallow >>= g) := by
  intro source
  rw [outcome_bind, outcome_bind]
  rcases first source with ⟨value, rest, ended⟩ | same
  · rw [ended]
    exact .inl ⟨value, rest, rfl⟩
  · rw [same]
    rcases Draw.outcome shallow source with ⟨e | a, rest⟩
    · exact .inr rfl
    · exact later a rest

/-- Two draws behind the same one. -/
theorem bind_right (draw : Draw σ α) {f g : α → Draw σ β}
    (later : ∀ a, EndsAlike (f a) (g a)) : EndsAlike (draw >>= f) (draw >>= g) :=
  (refl draw).bind later

/-! ## Collecting -/

section Collecting

variable {ι : Type} [BEq α] {deep shallow : ι → Draw σ α}

theorem newValue? (renders : ∀ item, EndsAlike (deep item) (shallow item))
    (pick : Draw σ (Option ι)) (collected : List α) (attempts : Nat) :
    EndsAlike (Collector.newValue? pick deep collected attempts)
      (Collector.newValue? pick shallow collected attempts) := by
  induction attempts with
  | zero => exact refl _
  | succ attempts ih =>
    apply bind_right pick
    intro found
    cases found with
    | none => exact refl _
    | some item =>
      apply (renders item).bind
      intro value
      split
      · exact ih
      · exact refl _

theorem extend (renders : ∀ item, EndsAlike (deep item) (shallow item))
    (pick : Draw σ (Option ι)) (collected : List α) (missing : Nat) :
    EndsAlike (Collector.extend pick deep collected missing)
      (Collector.extend pick shallow collected missing) := by
  induction missing generalizing collected with
  | zero => exact refl _
  | succ missing ih =>
    apply (newValue? renders pick collected Collector.maxAttempts).bind
    intro found
    cases found with
    | none => exact refl _
    | some value => exact ih (collected ++ [value])

theorem collect [WordSource σ] (renders : ∀ item, EndsAlike (deep item) (shallow item))
    (pick : Draw σ (Option ι)) (least most : Nat) :
    EndsAlike (Collector.collect pick deep least most)
      (Collector.collect pick shallow least most) :=
  bind_right _ fun wanted => extend renders pick [] wanted

end Collecting

end EndsAlike

/-! ## Templates -/

section Template

variable [WordSource σ] {provider : Provider} {deep shallow : Text → Draw σ Text}

end Template

variable [WordSource σ]

end Sampling

/-! ## The depth of a template -/

end PromptTemplate
