/-
# PromptTemplate.Proofs.Sampling.Follows -- observing a draw changes nothing

An observed draw follows a draw when it ends with the same result and leaves the same
source, having added events to the journal (`Follows`).  The relation carries what is
known of the value if the events are orderly, so that one walk over a program gives
both that observing it changes nothing and what its value is.
-/
import PromptTemplate.Proofs.Sampling.Observed
import Mathlib.Algebra.Group.Nat.Defs
import Mathlib.Data.List.Nodup

set_option autoImplicit false

namespace PromptTemplate.Sampling

/-- Nothing was empty for lack of values, and as much was collected as had to be; a
variant that may pick a single option only needs something to select. -/
def Event.Orderly : Event → Prop
  | .emptyWildcard _ => False
  | .collected least count selectable => least ≤ count ∨ (least = 1 ∧ selectable = true)

variable {σ α β : Type}

/-- The observed draw ends as the draw does and only adds to the journal; and if what it
adds is orderly, the value is as promised. -/
def Follows (observed : Draw (Observed σ) α) (plain : Draw σ α) (promise : α → Prop) : Prop :=
  ∀ (source : σ) (journal : List Event), ∃ added,
    Draw.outcome observed ⟨source, journal⟩ =
      ((Draw.outcome plain source).1, ⟨(Draw.outcome plain source).2, journal ++ added⟩) ∧
    ∀ a, (Draw.outcome plain source).1 = .ok a → (∀ event ∈ added, event.Orderly) → promise a

theorem outcome_bind (draw : Draw σ α) (next : α → Draw σ β) (source : σ) :
    Draw.outcome (draw >>= next) source =
      match Draw.outcome draw source with
      | (.ok a, rest) => Draw.outcome (next a) rest
      | (.error e, rest) => (.error e, rest) := by
  change ExceptT.bindCont next (Draw.outcome draw source).1 (Draw.outcome draw source).2 = _
  rcases Draw.outcome draw source with ⟨e | a, rest⟩ <;> rfl

namespace Follows

variable {promise : α → Prop} {observed : Draw (Observed σ) α} {plain : Draw σ α}

theorem pure {a : α} (kept : promise a) :
    Follows (pure a : Draw (Observed σ) α) (pure a) promise := by
  intro source journal
  refine ⟨[], by rw [List.append_nil]; rfl, ?_⟩
  intro b same _
  exact Except.ok.inj same ▸ kept

theorem throw (error : DrawError) :
    Follows (throw error : Draw (Observed σ) α) (throw error) promise := by
  intro source journal
  refine ⟨[], by rw [List.append_nil]; rfl, ?_⟩
  intro a same
  cases same

theorem mono {promise' : α → Prop} (follows : Follows observed plain promise)
    (weaker : ∀ a, promise a → promise' a) : Follows observed plain promise' := by
  intro source journal
  obtain ⟨added, same, kept⟩ := follows source journal
  exact ⟨added, same, fun a ended orderly => weaker a (kept a ended orderly)⟩

/-- One draw behind another: the second may rely on the promise of the first. -/
theorem bind {promise' : β → Prop} {observed' : α → Draw (Observed σ) β}
    {plain' : α → Draw σ β} (first : Follows observed plain promise)
    (next : ∀ a, Follows (observed' a) (plain' a) fun b => promise a → promise' b) :
    Follows (observed >>= observed') (plain >>= plain') promise' := by
  intro source journal
  obtain ⟨added, same, kept⟩ := first source journal
  rw [outcome_bind, outcome_bind, same]
  rcases ended : Draw.outcome plain source with ⟨e | a, rest⟩
  · refine ⟨added, rfl, ?_⟩
    intro b impossible
    cases impossible
  · obtain ⟨later, same', kept'⟩ := next a rest (journal ++ added)
    refine ⟨added ++ later, ?_, ?_⟩
    · rw [← List.append_assoc]
      exact same'
    · intro b ended' orderly
      rw [List.forall_mem_append] at orderly
      rw [ended] at kept
      exact kept' b ended' orderly.2 (kept a rfl orderly.1)

/-- A result that takes no word may be relied on as it is. -/
theorem ofResult_bind {promise' : β → Prop} {result : Except DrawError α}
    {observed' : α → Draw (Observed σ) β} {plain' : α → Draw σ β}
    (next : ∀ a, result = .ok a → Follows (observed' a) (plain' a) promise') :
    Follows (Draw.ofResult result >>= observed') (Draw.ofResult result >>= plain') promise' := by
  cases result with
  | error e => exact throw e
  | ok a => exact next a rfl

/-- What is noted may be relied on. -/
theorem note_bind {event : Event} {observed : Unit → Draw (Observed σ) α}
    (next : Follows (observed ()) plain fun a => event.Orderly → promise a) :
    Follows (Observed.note event >>= observed) plain promise := by
  intro source journal
  obtain ⟨added, same, kept⟩ := next source (journal ++ [event])
  refine ⟨event :: added, ?_, ?_⟩
  · rw [outcome_bind]
    rw [List.append_assoc] at same
    exact same
  · intro a ended orderly
    rw [List.forall_mem_cons] at orderly
    exact kept a ended orderly.2 orderly.1

/-! ## Words and numbers -/

theorem ofNext (next : σ → Option (α × σ)) (kept : ∀ a, promise a) :
    Follows (Draw.ofNext (Observed.ofNext next)) (Draw.ofNext next) promise := by
  intro source journal
  refine ⟨[], ?_, fun a _ _ => kept a⟩
  rw [List.append_nil]
  simp only [Draw.outcome, Draw.ofNext, Observed.ofNext, ExceptT.run]
  rcases next source with _ | ⟨word, rest⟩ <;> rfl

/-- The high half of the product of a word below `2 ^ width` and a size lies below the
size. -/
theorem shiftRight_mul_lt {v width size : Nat} (below : v < 2 ^ width) (positive : 0 < size) :
    (v * size) >>> width < size := by
  rw [Nat.shiftRight_eq_div_pow]
  exact Nat.div_lt_of_lt_mul (Nat.mul_lt_mul_of_pos_right below positive)

/-- A word below `2 ^ width` gives a number below the size, if there is any. -/
theorem acceptFrom {observed : Draw (Observed σ) Nat} {word : Draw σ Nat} {width : Nat}
    (words : Follows observed word (· < 2 ^ width)) (size fuel : Nat) :
    Follows (Draw.acceptFrom observed width size fuel) (Draw.acceptFrom word width size fuel)
      fun n => 0 < size → n < size := by
  induction fuel with
  | zero => exact throw _
  | succ fuel ih =>
    apply words.bind
    intro v
    split
    · exact pure fun inWidth positive => shiftRight_mul_lt inWidth positive
    · exact ih.mono fun _ below _ => below

variable [WordSource σ]

theorem accept {observed : Draw (Observed σ) Nat} {word : Draw σ Nat} {width : Nat}
    (words : Follows observed word (· < 2 ^ width)) (size : Nat) :
    Follows (Draw.accept observed width size) (Draw.accept word width size)
      fun n => 0 < size → n < size :=
  fun source journal => acceptFrom words size (WordSource.remaining source + 1) source journal

theorem below32 (size : Nat) :
    Follows (Draw.below32 size : Draw (Observed σ) Nat) (Draw.below32 size)
      fun n => 0 < size → n < size := by
  refine accept (bind (ofNext WordSource.next32 fun _ => trivial) fun word => ?_) size
  exact pure fun _ => word.toNat_lt

theorem word64 : Follows (Draw.word64 : Draw (Observed σ) UInt64) Draw.word64 fun _ => True :=
  ofNext WordSource.next64 fun _ => trivial

theorem below64 (size : Nat) :
    Follows (Draw.below64 size : Draw (Observed σ) Nat) (Draw.below64 size)
      fun n => 0 < size → n < size := by
  have words : Follows (do return (← Draw.word64).toNat : Draw (Observed σ) Nat)
      (do return (← Draw.word64).toNat) (· < 2 ^ 64) :=
    word64.bind fun word => pure fun _ => word.toNat_lt
  unfold Draw.below64
  split
  · exact accept words size
  · rename_i large
    exact words.mono fun n below _ => Nat.lt_of_lt_of_le below (Nat.not_lt.1 large)

theorem between {least most : Nat} (ordered : least ≤ most) :
    Follows (Draw.between least most : Draw (Observed σ) Nat) (Draw.between least most)
      fun n => least ≤ n ∧ n ≤ most := by
  refine bind (below64 _) fun n => pure fun below => ?_
  have inside := below (Nat.succ_pos _)
  omega

end Follows

/-! ## Collecting -/

/-- So many sound values at most, none of them twice. -/
structure Collected (sound : α → Prop) (most : Nat) (values : List α) : Prop where
  nodup : values.Nodup
  length_le : values.length ≤ most
  all_sound : ∀ value ∈ values, sound value

namespace Collected

variable {sound : α → Prop} {most : Nat} {values : List α}

theorem weaken {more : Nat} (collected : Collected sound most values) (le : most ≤ more) :
    Collected sound more values :=
  ⟨collected.nodup, Nat.le_trans collected.length_le le, collected.all_sound⟩

theorem concat {value : α} (collected : Collected sound most values) (new : value ∉ values)
    (isSound : sound value) : Collected sound (most + 1) (values ++ [value]) where
  nodup := by
    rw [← List.concat_eq_append]
    exact List.Nodup.concat new collected.nodup
  length_le := by
    rw [List.length_append]
    exact Nat.succ_le_succ collected.length_le
  all_sound := by
    rw [List.forall_mem_append, List.forall_mem_singleton]
    exact ⟨collected.all_sound, isSound⟩

end Collected

namespace Follows

variable {ι : Type} [BEq α] [LawfulBEq α] {here : ι → Prop} {available : Prop}
  {sound : α → Prop} {observedPick : Draw (Observed σ) (Option ι)} {pick : Draw σ (Option ι)}
  {observedRender : ι → Draw (Observed σ) α} {render : ι → Draw σ α}

/-- A new value is sound; and one is found at once if none has been collected. -/
theorem newValue?
    (picks : Follows observedPick pick fun found =>
      (∀ item, found = some item → here item) ∧ (available → found ≠ none))
    (renders : ∀ item, Follows (observedRender item) (render item) fun value =>
      here item → sound value)
    (collected : List α) (attempts : Nat) :
    Follows (Collector.newValue? observedPick observedRender collected attempts)
      (Collector.newValue? pick render collected attempts) fun found =>
        (∀ value, found = some value → value ∉ collected ∧ sound value) ∧
          (available → collected = [] → 0 < attempts → found ≠ none) := by
  induction attempts with
  | zero => exact pure ⟨nofun, fun _ _ impossible => absurd impossible (Nat.lt_irrefl 0)⟩
  | succ attempts ih =>
    apply picks.bind
    intro found
    cases found with
    | none => exact pure fun kept => ⟨nofun, fun some _ _ => absurd rfl (kept.2 some)⟩
    | some item =>
      apply (renders item).bind
      intro value
      split
      · rename_i old
        refine ih.mono fun found new _ _ => ⟨new.1, fun _ none _ => ?_⟩
        rw [none] at old
        exact absurd old Bool.false_ne_true
      · rename_i fresh
        refine pure fun isSound kept => ⟨?_, fun _ _ _ => nofun⟩
        intro _ same
        obtain rfl := Option.some.inj same
        exact ⟨by simpa using fresh, isSound (kept.1 item rfl)⟩

/-- What has been collected stays sound with every new value. -/
theorem extend
    (picks : Follows observedPick pick fun found =>
      (∀ item, found = some item → here item) ∧ (available → found ≠ none))
    (renders : ∀ item, Follows (observedRender item) (render item) fun value =>
      here item → sound value)
    (collected : List α) (count missing : Nat) :
    Follows (Collector.extend observedPick observedRender collected missing)
      (Collector.extend pick render collected missing) fun values =>
        Collected sound count collected → Collected sound (count + missing) values ∧
          (available → collected ≠ [] ∨ 0 < missing → values ≠ []) := by
  induction missing generalizing collected count with
  | zero => exact pure fun sofar => ⟨sofar, fun _ some => some.resolve_right (Nat.lt_irrefl 0)⟩
  | succ missing ih =>
    apply (newValue? picks renders collected Collector.maxAttempts).bind
    intro found
    cases found with
    | none =>
      refine pure fun kept sofar => ⟨sofar.weaken (Nat.le_add_right _ _), fun some _ none => ?_⟩
      exact kept.2 some none (by decide) rfl
    | some value =>
      apply (ih (collected ++ [value]) (count + 1)).mono
      intro values kept new sofar
      obtain ⟨all, nonempty⟩ := kept (sofar.concat (new.1 value rfl).1 (new.1 value rfl).2)
      refine ⟨?_, fun some _ => ?_⟩
      · rwa [Nat.add_comm missing, ← Nat.add_assoc]
      · exact nonempty some (.inl (List.append_ne_nil_of_right_ne_nil _ (List.cons_ne_nil _ _)))

theorem collect [WordSource σ] {least most : Nat} (positive : 1 ≤ least) (ordered : least ≤ most)
    (picks : Follows observedPick pick fun found =>
      (∀ item, found = some item → here item) ∧ (available → found ≠ none))
    (renders : ∀ item, Follows (observedRender item) (render item) fun value =>
      here item → sound value) :
    Follows (Collector.collect observedPick observedRender least most)
      (Collector.collect pick render least most) fun values =>
        Collected sound most values ∧ (available → values ≠ []) := by
  refine bind (between (Nat.le_max_left least most)) ?_
  intro wanted
  apply (extend picks renders [] 0 wanted).mono
  intro values kept bounds
  obtain ⟨all, nonempty⟩ := kept ⟨List.nodup_nil, Nat.le_refl 0, nofun⟩
  refine ⟨all.weaken ?_, fun some => nonempty some (.inr ?_)⟩
  · omega
  · omega

end Follows

end PromptTemplate.Sampling
