/-
# PromptTemplate.Proofs.Sampling.Ends -- how draws end

A draw ends with a value that keeps a promise, or fails in a way that is allowed for the
source that it leaves (`Ends`).  There is one rule for every way in which draws are made
of draws.

A draw that is refused words goes on until it has one or the source is dry: the fuel of
`Draw.accept` never ends before the words do (`ends_accept`), so running out of words is
always the source's doing.
-/
import PromptTemplate.Proofs.Sampling.Follows

set_option autoImplicit false

namespace PromptTemplate

/-- The source has no further word of one of the two sizes. -/
def WordSource.Dry {σ : Type} [WordSource σ] (source : σ) : Prop :=
  WordSource.next32 source = none ∨ WordSource.next64 source = none

namespace Sampling

variable {σ α β : Type}

/-- A value of the draw keeps the promise, and the draw fails only as it is allowed to. -/
structure Ends (draw : Draw σ α) (promise : α → Prop) (failure : DrawError → σ → Prop) :
    Prop where
  kept : ∀ {source rest : σ} {a : α}, Draw.outcome draw source = (.ok a, rest) → promise a
  allowed : ∀ {source rest : σ} {e : DrawError},
    Draw.outcome draw source = (.error e, rest) → failure e rest

/-- Nothing is promised of the value of the draw. -/
abbrev FailsOnly (draw : Draw σ α) (failure : DrawError → σ → Prop) : Prop :=
  Ends draw (fun _ => True) failure

/-- A draw whose value is promised may be followed by anything that agrees on such
values. -/
theorem Ends.bind_congr {draw : Draw σ α} {promise : α → Prop} {failure : DrawError → σ → Prop}
    (ends : Ends draw promise failure) {next other : α → Draw σ β}
    (same : ∀ a, promise a → next a = other a) : draw >>= next = draw >>= other := by
  funext source
  show Draw.outcome (draw >>= next) source = Draw.outcome (draw >>= other) source
  rw [outcome_bind, outcome_bind]
  rcases ended : Draw.outcome draw source with ⟨e | a, rest⟩
  · rfl
  · exact congrArg (Draw.outcome · rest) (same a (ends.kept ended))

namespace Ends

variable {promise : α → Prop} {failure : DrawError → σ → Prop} {draw : Draw σ α}

theorem pure {a : α} (keeps : promise a) : Ends (pure a) promise failure where
  kept ended := Except.ok.inj (Prod.mk.inj ended).1 ▸ keeps
  allowed := nofun

theorem throw {error : DrawError} (may : ∀ rest, failure error rest) :
    Ends (throw error) promise failure where
  kept := nofun
  allowed ended := Except.error.inj (Prod.mk.inj ended).1 ▸ may _

theorem mono {promise' : α → Prop} {failure' : DrawError → σ → Prop}
    (ends : Ends draw promise failure) (weaker : ∀ a, promise a → promise' a)
    (also : ∀ e rest, failure e rest → failure' e rest) : Ends draw promise' failure' where
  kept ended := weaker _ (ends.kept ended)
  allowed ended := also _ _ (ends.allowed ended)

/-- One draw behind another: the second may rely on the promise of the first. -/
theorem bind {promise' : β → Prop} {next : α → Draw σ β} (first : Ends draw promise failure)
    (later : ∀ a, promise a → Ends (next a) promise' failure) :
    Ends (draw >>= next) promise' failure where
  kept {source rest b} ended := by
    rw [outcome_bind] at ended
    rcases same : Draw.outcome draw source with ⟨e | a, between⟩
    · rw [same] at ended
      cases ended
    · rw [same] at ended
      exact (later a (first.kept same)).kept ended
  allowed {source rest e} ended := by
    rw [outcome_bind] at ended
    rcases same : Draw.outcome draw source with ⟨own | a, between⟩
    · rw [same] at ended
      obtain ⟨failed, rfl⟩ := Prod.mk.inj ended
      exact Except.error.inj failed ▸ first.allowed same
    · rw [same] at ended
      exact (later a (first.kept same)).allowed ended

/-- A draw of which nothing is promised. -/
theorem of_bind {promise' : β → Prop} {next : α → Draw σ β}
    (first : FailsOnly draw failure) (later : ∀ a, Ends (next a) promise' failure) :
    Ends (draw >>= next) promise' failure :=
  first.bind fun a _ => later a

/-- A result that takes no word may be relied on as it is. -/
theorem ofResult {result : Except DrawError α}
    (may : ∀ e, result = .error e → ∀ rest, failure e rest) :
    Ends (Draw.ofResult result) (fun a => result = .ok a) failure where
  kept ended := (Prod.mk.inj ended).1
  allowed ended := may _ (Prod.mk.inj ended).1 _

end Ends

/-! ## Words -/

section Words

variable [WordSource σ]

/-- The draw takes a word below `2 ^ width`, or finds the source dry. -/
structure TakesWord (word : Draw σ Nat) (width : Nat) : Prop where
  lt : ∀ {source rest : σ} {v : Nat}, Draw.outcome word source = (.ok v, rest) →
    v < 2 ^ width ∧ WordSource.remaining rest < WordSource.remaining source
  dry : ∀ {source rest : σ} {e : DrawError}, Draw.outcome word source = (.error e, rest) →
    e = .exhausted ∧ WordSource.Dry rest

theorem takesWord_ofNext {next : σ → Option (β × σ)} {number : β → Nat} {width : Nat}
    (lt : ∀ word, number word < 2 ^ width)
    (shrinks : ∀ {source rest : σ} {word : β}, next source = some (word, rest) →
      WordSource.remaining rest < WordSource.remaining source)
    (dry : ∀ source, next source = none → WordSource.Dry source) :
    TakesWord (do return number (← Draw.ofNext next)) width where
  lt {source rest v} ended := by
    rw [outcome_bind] at ended
    cases taken : next source with
    | none =>
      simp only [Draw.outcome, Draw.ofNext, ExceptT.run, taken] at ended
      cases ended
    | some pair =>
      simp only [Draw.outcome, Draw.ofNext, ExceptT.run, taken] at ended
      obtain ⟨same, rfl⟩ := Prod.mk.inj ended
      obtain rfl := Except.ok.inj same
      exact ⟨lt pair.1, shrinks taken⟩
  dry {source rest e} ended := by
    rw [outcome_bind] at ended
    cases taken : next source with
    | none =>
      simp only [Draw.outcome, Draw.ofNext, ExceptT.run, taken] at ended
      obtain ⟨same, rfl⟩ := Prod.mk.inj ended
      exact ⟨(Except.error.inj same).symm, dry source taken⟩
    | some pair =>
      simp only [Draw.outcome, Draw.ofNext, ExceptT.run, taken] at ended
      cases ended

theorem takesWord_word32 : TakesWord (do return (← (Draw.word32 : Draw σ UInt32)).toNat) 32 :=
  takesWord_ofNext (fun word => word.toNat_lt) WordSource.remaining_next32 fun _ => .inl

theorem takesWord_word64 : TakesWord (do return (← (Draw.word64 : Draw σ UInt64)).toNat) 64 :=
  takesWord_ofNext (fun word => word.toNat_lt) WordSource.remaining_next64 fun _ => .inr

/-- Fuel above the number of words that remain is enough. -/
theorem outcome_acceptFrom {word : Draw σ Nat} {width : Nat} (words : TakesWord word width)
    (size : Nat) {fuel : Nat} {source : σ} (enough : WordSource.remaining source < fuel) :
    match Draw.outcome (Draw.acceptFrom word width size fuel) source with
    | (.ok n, _) => 0 < size → n < size
    | (.error e, rest) => e = .exhausted ∧ WordSource.Dry rest := by
  induction fuel generalizing source with
  | zero => exact absurd enough (Nat.not_lt_zero _)
  | succ fuel ih =>
    rw [Draw.acceptFrom, outcome_bind]
    rcases taken : Draw.outcome word source with ⟨e | v, rest⟩
    · exact words.dry taken
    · obtain ⟨below, less⟩ := words.lt taken
      by_cases accepted : v * size % (1 <<< width) ≤ Draw.zone width size
      · simp only [if_pos accepted]
        exact fun positive => Follows.shiftRight_mul_lt below positive
      · -- the word that is refused is gone, so less fuel is enough for the words behind it
        simp only [if_neg accepted]
        exact ih (Nat.lt_of_lt_of_le less (Nat.le_of_lt_succ enough))

variable {failure : DrawError → σ → Prop}

/-- A number that is drawn from a size other than zero lies below it, and there is one
unless the source is dry. -/
theorem ends_accept {word : Draw σ Nat} {width : Nat} (words : TakesWord word width)
    (dry : ∀ rest, WordSource.Dry rest → failure .exhausted rest) (size : Nat) :
    Ends (Draw.accept word width size) (fun n => 0 < size → n < size) failure where
  kept {source rest n} ended := by
    have ends := outcome_acceptFrom words size (Nat.lt_succ_self (WordSource.remaining source))
    change Draw.outcome (Draw.acceptFrom word width size _) source = _ at ended
    rw [ended] at ends
    exact ends
  allowed {source rest e} ended := by
    have ends := outcome_acceptFrom words size (Nat.lt_succ_self (WordSource.remaining source))
    change Draw.outcome (Draw.acceptFrom word width size _) source = _ at ended
    rw [ended] at ends
    exact ends.1 ▸ dry rest ends.2

theorem ends_word {word : Draw σ Nat} {width : Nat} (words : TakesWord word width)
    (dry : ∀ rest, WordSource.Dry rest → failure .exhausted rest) :
    Ends word (· < 2 ^ width) failure where
  kept ended := (words.lt ended).1
  allowed ended := by
    obtain ⟨rfl, isDry⟩ := words.dry ended
    exact dry _ isDry

theorem ends_below32 (dry : ∀ rest, WordSource.Dry rest → failure .exhausted rest) (size : Nat) :
    Ends (Draw.below32 size) (fun n => 0 < size → n < size) failure :=
  ends_accept takesWord_word32 dry size

theorem ends_below64 (dry : ∀ rest, WordSource.Dry rest → failure .exhausted rest) (size : Nat) :
    Ends (Draw.below64 size) (fun n => 0 < size → n < size) failure := by
  unfold Draw.below64
  split
  · exact ends_accept takesWord_word64 dry size
  · rename_i large
    exact (ends_word takesWord_word64 dry).mono
      (fun n below _ => Nat.lt_of_lt_of_le below (Nat.not_lt.1 large)) fun _ _ => id

theorem ends_between (dry : ∀ rest, WordSource.Dry rest → failure .exhausted rest)
    {least most : Nat} (ordered : least ≤ most) :
    Ends (Draw.between least most) (fun n => least ≤ n ∧ n ≤ most) failure := by
  apply (ends_below64 dry _).bind
  intro n below
  apply Ends.pure
  have bound := below (Nat.succ_pos _)
  omega

theorem ends_word64 (dry : ∀ rest, WordSource.Dry rest → failure .exhausted rest) :
    FailsOnly (Draw.word64 : Draw σ UInt64) failure where
  kept _ := trivial
  allowed {source rest e} ended := by
    simp only [Draw.outcome, Draw.word64, Draw.ofNext, ExceptT.run] at ended
    split at ended
    · rename_i none
      obtain ⟨same, rfl⟩ := Prod.mk.inj ended
      exact Except.error.inj same ▸ dry source (.inr none)
    · cases ended

end Words

/-! ## Collecting -/

namespace Ends

variable {ι : Type} [BEq α] {failure : DrawError → σ → Prop} {pick : Draw σ (Option ι)}
  {render : ι → Draw σ α}

theorem newValue? (picks : FailsOnly pick failure)
    (renders : ∀ item, FailsOnly (render item) failure) (collected : List α)
    (attempts : Nat) :
    FailsOnly (Collector.newValue? pick render collected attempts) failure := by
  induction attempts with
  | zero => exact pure trivial
  | succ attempts ih =>
    apply picks.of_bind
    intro found
    cases found with
    | none => exact pure trivial
    | some item =>
      apply (renders item).of_bind
      intro value
      split
      · exact ih
      · exact pure trivial

theorem extend (picks : FailsOnly pick failure)
    (renders : ∀ item, FailsOnly (render item) failure) (collected : List α)
    (missing : Nat) :
    FailsOnly (Collector.extend pick render collected missing) failure := by
  induction missing generalizing collected with
  | zero => exact pure trivial
  | succ missing ih =>
    apply (newValue? picks renders collected Collector.maxAttempts).of_bind
    intro found
    cases found with
    | none => exact pure trivial
    | some value => exact ih (collected ++ [value])

/-- Collecting fails only as picking and rendering may fail, or for lack of words. -/
theorem collect [WordSource σ] (dry : ∀ rest, WordSource.Dry rest → failure .exhausted rest)
    (picks : FailsOnly pick failure)
    (renders : ∀ item, FailsOnly (render item) failure) (least most : Nat) :
    FailsOnly (Collector.collect pick render least most) failure := by
  apply (ends_between dry (Nat.le_max_left least most)).bind
  intro wanted _
  exact extend picks renders [] wanted

end Ends

end Sampling

end PromptTemplate
