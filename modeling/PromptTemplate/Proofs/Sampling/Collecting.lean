/-
# PromptTemplate.Proofs.Sampling.Collecting -- what a collection returns

A collection is a loop: it draws one value after the other as long as fewer distinct values
than wanted have come and the last draws are not a hundred repetitions in a row (`GoesOn`).
`Drawn` says which draws have been made and where the source stands then.

What has been drawn is a part that ends with a new value and a stretch of repetitions behind
it (`Trail`); the length of the stretch is what the loop counts.  Wherever the loop has got
to, it has made no more draws than it may, and what is left of the collection is what the
loop does from there on (`Drawn.invariant`).  As the draws are bounded, the loop ends
(`exists_stop`), and how it ends can be read off the place where it does.
-/
import PromptTemplate.Proofs.Sampling.Ends
import PromptTemplate.Text.Joining
import Mathlib.Data.List.Induction

set_option autoImplicit false

namespace PromptTemplate

/-! ## Distinct values, one after the other -/

section Distinct

variable {α : Type} [BEq α]

/-- Of further values only new ones count. -/
theorem distinct_concat (values : List α) (value : α) :
    distinct (values ++ [value]) =
      if (distinct values).contains value then distinct values
      else distinct values ++ [value] := by
  rw [distinct, distinct, List.foldl_append]
  rfl

/-- Repetitions bring nothing new. -/
theorem distinct_append_of_old {front stretch : List α}
    (old : ∀ value ∈ stretch, (distinct front).contains value = true) :
    distinct (front ++ stretch) = distinct front := by
  induction stretch using List.reverseRecOn with
  | nil => rw [List.append_nil]
  | append_singleton stretch value ih =>
    obtain ⟨before, last⟩ := List.forall_mem_append.1 old
    rw [← List.append_assoc, distinct_concat, ih before,
      if_pos (last value (List.mem_singleton_self value))]

theorem pairwise_distinct (values : List α) :
    (distinct values).Pairwise fun a b => (b == a) = false := by
  induction values using List.reverseRecOn with
  | nil => exact .nil
  | append_singleton values value ih =>
    rw [distinct_concat]
    split
    · exact ih
    · rename_i new
      refine List.pairwise_append.2 ⟨ih, List.pairwise_singleton _ _, fun a member b last => ?_⟩
      obtain rfl := List.mem_singleton.1 last
      by_contra same
      exact new (List.contains_iff_exists_mem_beq.2 ⟨a, member, by simpa using same⟩)

end Distinct

namespace Collector

open Sampling (outcome_bind)

variable {σ ι α : Type} [BEq α]

/-! ## The loop -/

/-- So many draws behind others that they are the last ones: none brought a new value. -/
def Futile (front stretch : List α) : Prop :=
  stretch.length = maxAttempts ∧ ∀ value ∈ stretch, (distinct front).contains value = true

/-- Another value is drawn: some are missing, and the last draws were not futile. -/
def GoesOn (wanted : Nat) (drawn : List α) : Prop :=
  (distinct drawn).length < wanted ∧ ∀ front stretch, drawn = front ++ stretch →
    ¬ Futile front stretch

/-- The values drawn so far, from a source on, and the source that they leave. -/
inductive Drawn (pick? : Draw σ (Option ι)) (render : ι → Draw σ α) (wanted : Nat) (start : σ) :
    List α → σ → Prop
  | none : Drawn pick? render wanted start [] start
  | next {drawn : List α} {source picked rendered : σ} {item : ι} {value : α}
      (before : Drawn pick? render wanted start drawn source) (goesOn : GoesOn wanted drawn)
      (picks : Draw.outcome pick? source = (.ok (some item), picked))
      (renders : Draw.outcome (render item) picked = (.ok value, rendered)) :
      Drawn pick? render wanted start (drawn ++ [value]) rendered

/-- A draw fails: there is an error instead of an item, or instead of its rendering. -/
def DrawFails (pick? : Draw σ (Option ι)) (render : ι → Draw σ α) (source : σ) (e : DrawError)
    (rest : σ) : Prop :=
  Draw.outcome pick? source = (.error e, rest) ∨
    ∃ item picked, Draw.outcome pick? source = (.ok (some item), picked) ∧
      Draw.outcome (render item) picked = (.error e, rest)

/-! ## Repetitions at the end -/

/-- What has been drawn, cut behind the last new value. -/
structure Trail (front stretch : List α) : Prop where
  old : ∀ value ∈ stretch, (distinct front).contains value = true
  fresh : ∀ before value, front = before ++ [value] → (distinct before).contains value = false

namespace Trail

variable {front stretch : List α}

theorem distinct_eq (trail : Trail front stretch) :
    distinct (front ++ stretch) = distinct front :=
  distinct_append_of_old trail.old

/-- Repetitions in a row reach back to the last new value at most. -/
theorem length_le (trail : Trail front stretch) {front' stretch' : List α}
    (same : front ++ stretch = front' ++ stretch')
    (old : ∀ value ∈ stretch', (distinct front').contains value = true) :
    stretch'.length ≤ stretch.length := by
  rcases List.append_eq_append_iff.1 same with ⟨more, -, rfl⟩ | ⟨more, rfl, rfl⟩
  · rw [List.length_append]
    omega
  · -- the last of the values between the cuts would be new and a repetition
    rcases List.eq_nil_or_concat' more with rfl | ⟨before, value, rfl⟩
    · exact Nat.le_refl _
    · have between := (List.forall_mem_append.1 old).1
      obtain ⟨earlier, last⟩ := List.forall_mem_append.1 between
      have fresh := trail.fresh (front' ++ before) value (List.append_assoc ..).symm
      rw [distinct_append_of_old earlier, last value (List.mem_singleton_self value)] at fresh
      cases fresh

/-- Whether the loop goes on depends on two numbers of the trail. -/
theorem goesOn_iff (trail : Trail front stretch) {wanted : Nat}
    (few : stretch.length ≤ maxAttempts) :
    GoesOn wanted (front ++ stretch) ↔
      (distinct front).length < wanted ∧ stretch.length < maxAttempts := by
  rw [GoesOn, trail.distinct_eq]
  refine and_congr_right fun _ => ⟨fun patient => ?_, ?_⟩
  · by_contra all
    exact patient front stretch rfl ⟨by omega, trail.old⟩
  · rintro fewer front' stretch' same ⟨length, old⟩
    have bound := trail.length_le same old
    omega

theorem nil : Trail ([] : List α) [] :=
  ⟨nofun, fun _ _ impossible => by simp at impossible⟩

theorem repeated (trail : Trail front stretch) {value : α}
    (old : (distinct front).contains value = true) : Trail front (stretch ++ [value]) where
  old := List.forall_mem_append.2 ⟨trail.old, List.forall_mem_singleton.2 old⟩
  fresh := trail.fresh

theorem renewed (trail : Trail front stretch) {value : α}
    (new : (distinct front).contains value = false) : Trail (front ++ stretch ++ [value]) [] where
  old := nofun
  fresh := by
    intro before last same
    obtain ⟨rfl, own⟩ := List.append_inj' same rfl
    rw [← (List.cons.inj own).1, trail.distinct_eq, new]

end Trail

/-! ## What is left of a collection -/

section Resume

variable (pick? : Draw σ (Option ι)) (render : ι → Draw σ α)

/-- The rest of a collection: so many values are missing, and so many attempts are left for
the next of them. -/
def resume (collected : List α) (attempts : Nat) : Nat → Draw σ (List α)
  | 0 => return collected
  | missing + 1 => do
    match ← newValue? pick? render collected attempts with
    | none => return collected
    | some value => extend pick? render (collected ++ [value]) missing

theorem extend_eq_resume (collected : List α) (missing : Nat) :
    extend pick? render collected missing = resume pick? render collected maxAttempts missing := by
  cases missing with
  | zero => rfl
  | succ missing => rfl

theorem outcome_resume_none (collected : List α) (missing : Nat) (source : σ) :
    Draw.outcome (resume pick? render collected 0 missing) source = (.ok collected, source) := by
  cases missing with
  | zero => rfl
  | succ missing => rfl

/-- One more draw. -/
theorem outcome_resume_succ (collected : List α) (attempts missing : Nat) (source : σ) :
    Draw.outcome (resume pick? render collected (attempts + 1) (missing + 1)) source =
      match Draw.outcome pick? source with
      | (.error e, rest) => (.error e, rest)
      | (.ok none, rest) => (.ok collected, rest)
      | (.ok (some item), picked) =>
        match Draw.outcome (render item) picked with
        | (.error e, rest) => (.error e, rest)
        | (.ok value, rendered) =>
          if collected.contains value then
            Draw.outcome (resume pick? render collected attempts (missing + 1)) rendered
          else
            Draw.outcome (resume pick? render (collected ++ [value]) maxAttempts missing)
              rendered := by
  rw [resume, newValue?, bind_assoc, outcome_bind]
  rcases Draw.outcome pick? source with ⟨e | found, picked⟩
  · rfl
  · cases found with
    | none => rfl
    | some item =>
      dsimp only
      rw [bind_assoc, outcome_bind]
      rcases Draw.outcome (render item) picked with ⟨e | value, rendered⟩
      · rfl
      · dsimp only
        split
        · rfl
        · rw [pure_bind, ← extend_eq_resume]

end Resume

/-! ## Where the loop has got to -/

section Place

variable {pick? : Draw σ (Option ι)} {render : ι → Draw σ α} {wanted : Nat} {start stop : σ}
  {front stretch : List α}

/-- A place in the loop, as the values drawn so far tell it: how many they may be, and what
is left of the collection. -/
structure Place (pick? : Draw σ (Option ι)) (render : ι → Draw σ α) (wanted : Nat) (start : σ)
    (front stretch : List α) (stop : σ) : Prop extends Trail front stretch where
  front_le : front.length ≤ maxAttempts * (distinct front).length
  stretch_le : stretch.length ≤ maxAttempts
  distinct_le : (distinct front).length ≤ wanted
  distinct_lt : stretch ≠ [] → (distinct front).length < wanted
  rest : Draw.outcome (extend pick? render [] wanted) start =
    Draw.outcome (resume pick? render (distinct front) (maxAttempts - stretch.length)
      (wanted - (distinct front).length)) stop

namespace Place

theorem nil : Place pick? render wanted start [] [] start where
  toTrail := Trail.nil
  front_le := Nat.zero_le _
  stretch_le := Nat.zero_le _
  distinct_le := Nat.zero_le _
  distinct_lt := nofun
  rest := by rw [extend_eq_resume]; rfl

variable (place : Place pick? render wanted start front stretch stop)

include place

/-- Each distinct value takes no more draws than there are attempts for it. -/
theorem length_le : (front ++ stretch).length ≤ maxAttempts * wanted := by
  have few := place.front_le
  rw [List.length_append]
  rcases List.eq_nil_or_concat' stretch with rfl | ⟨before, value, rfl⟩
  · exact Nat.le_trans few (Nat.mul_le_mul_left _ place.distinct_le)
  · have room : maxAttempts * ((distinct front).length + 1) ≤ maxAttempts * wanted :=
      Nat.mul_le_mul_left _ (place.distinct_lt (List.append_ne_nil_of_right_ne_nil _ nofun))
    have last := place.stretch_le
    rw [Nat.mul_succ] at room
    omega

theorem length_lt (goesOn : GoesOn wanted (front ++ stretch)) :
    (front ++ stretch).length < maxAttempts * wanted := by
  obtain ⟨missing, patient⟩ := (place.goesOn_iff place.stretch_le).1 goesOn
  have few := place.front_le
  have room : maxAttempts * ((distinct front).length + 1) ≤ maxAttempts * wanted :=
    Nat.mul_le_mul_left _ missing
  rw [List.length_append]
  rw [Nat.mul_succ] at room
  omega

/-- The loop ends where it does not go on. -/
theorem outcome_of_not_goesOn (finished : ¬ GoesOn wanted (front ++ stretch)) :
    Draw.outcome (extend pick? render [] wanted) start =
      (.ok (distinct (front ++ stretch)), stop) := by
  rw [place.goesOn_iff place.stretch_le, not_and_or, Nat.not_lt, Nat.not_lt] at finished
  rw [place.rest, place.distinct_eq]
  rcases finished with enough | futile
  · rw [Nat.sub_eq_zero_of_le enough]
    rfl
  · rw [Nat.sub_eq_zero_of_le futile, outcome_resume_none]

/-- Where the loop goes on, it draws once more. -/
theorem outcome_of_goesOn (goesOn : GoesOn wanted (front ++ stretch)) :
    Draw.outcome (extend pick? render [] wanted) start =
      match Draw.outcome pick? stop with
      | (.error e, rest) => (.error e, rest)
      | (.ok none, rest) => (.ok (distinct (front ++ stretch)), rest)
      | (.ok (some item), picked) =>
        match Draw.outcome (render item) picked with
        | (.error e, rest) => (.error e, rest)
        | (.ok value, rendered) =>
          if (distinct front).contains value then
            Draw.outcome (resume pick? render (distinct front)
              (maxAttempts - (stretch.length + 1)) (wanted - (distinct front).length)) rendered
          else
            Draw.outcome (resume pick? render (distinct front ++ [value]) maxAttempts
              (wanted - ((distinct front).length + 1))) rendered := by
  obtain ⟨missing, patient⟩ := (place.goesOn_iff place.stretch_le).1 goesOn
  obtain ⟨attempts, left⟩ := Nat.exists_eq_add_of_lt patient
  obtain ⟨more, short⟩ := Nat.exists_eq_add_of_lt missing
  rw [place.rest, place.distinct_eq,
    show maxAttempts - stretch.length = attempts + 1 by omega,
    show maxAttempts - (stretch.length + 1) = attempts by omega,
    show wanted - (distinct front).length = more + 1 by omega,
    show wanted - ((distinct front).length + 1) = more by omega, outcome_resume_succ]

section Next

variable {item : ι} {value : α} {picked rendered : σ} (goesOn : GoesOn wanted (front ++ stretch))
  (picks : Draw.outcome pick? stop = (.ok (some item), picked))
  (renders : Draw.outcome (render item) picked = (.ok value, rendered))

include goesOn picks renders

/-- A repetition costs an attempt. -/
theorem repeated (old : (distinct front).contains value = true) :
    Place pick? render wanted start front (stretch ++ [value]) rendered := by
  obtain ⟨missing, patient⟩ := (place.goesOn_iff place.stretch_le).1 goesOn
  have rest := place.outcome_of_goesOn goesOn
  simp only [picks, renders, if_pos old] at rest
  refine ⟨place.toTrail.repeated old, place.front_le, ?_, place.distinct_le, fun _ => missing, ?_⟩
  · rw [List.length_append]
    exact patient
  · rw [rest, List.length_append]
    rfl

/-- With a new value the attempts start anew. -/
theorem renewed (new : (distinct front).contains value = false) :
    Place pick? render wanted start (front ++ stretch ++ [value]) [] rendered := by
  obtain ⟨missing, patient⟩ := (place.goesOn_iff place.stretch_le).1 goesOn
  have fresh : ¬ (distinct front).contains value = true := Bool.eq_false_iff.1 new
  have longer : distinct (front ++ stretch ++ [value]) = distinct front ++ [value] := by
    rw [distinct_concat, place.distinct_eq, if_neg fresh]
  have few := place.front_le
  have rest := place.outcome_of_goesOn goesOn
  simp only [picks, renders, if_neg fresh] at rest
  refine ⟨place.toTrail.renewed new, ?_, Nat.zero_le _, ?_, nofun, ?_⟩
  · rw [longer, List.length_append, List.length_append, List.length_append,
      List.length_singleton, Nat.mul_succ]
    omega
  · rw [longer, List.length_append]
    exact missing
  · rw [rest, longer, List.length_append]
    rfl

theorem next : ∃ front' stretch', front ++ stretch ++ [value] = front' ++ stretch' ∧
    Place pick? render wanted start front' stretch' rendered := by
  cases known : (distinct front).contains value with
  | true =>
    exact ⟨front, stretch ++ [value], List.append_assoc ..,
      place.repeated goesOn picks renders known⟩
  | false =>
    exact ⟨front ++ stretch ++ [value], [], (List.append_nil _).symm,
      place.renewed goesOn picks renders known⟩

end Next

end Place

end Place

/-! ## What the draws come to -/

section Drawn

variable {pick? : Draw σ (Option ι)} {render : ι → Draw σ α} {wanted : Nat} {start stop : σ}
  {drawn : List α}

namespace Drawn

theorem place (drawing : Drawn pick? render wanted start drawn stop) :
    ∃ front stretch, drawn = front ++ stretch ∧
      Place pick? render wanted start front stretch stop := by
  induction drawing with
  | none => exact ⟨[], [], rfl, Place.nil⟩
  | next _ goesOn picks renders ih =>
    obtain ⟨front, stretch, rfl, place⟩ := ih
    exact place.next goesOn picks renders

theorem length_le (drawing : Drawn pick? render wanted start drawn stop) :
    drawn.length ≤ maxAttempts * wanted := by
  obtain ⟨front, stretch, rfl, place⟩ := drawing.place
  exact place.length_le

theorem length_lt (drawing : Drawn pick? render wanted start drawn stop)
    (goesOn : GoesOn wanted drawn) : drawn.length < maxAttempts * wanted := by
  obtain ⟨front, stretch, rfl, place⟩ := drawing.place
  exact place.length_lt goesOn

theorem distinct_le (drawing : Drawn pick? render wanted start drawn stop) :
    (distinct drawn).length ≤ wanted := by
  obtain ⟨front, stretch, rfl, place⟩ := drawing.place
  rw [place.distinct_eq]
  exact place.distinct_le

/-- Nothing is drawn behind futile draws. -/
theorem last_of_futile (drawing : Drawn pick? render wanted start drawn stop)
    {front stretch back : List α} (cut : drawn = front ++ stretch ++ back)
    (futile : Futile front stretch) : back = [] := by
  induction drawing generalizing back with
  | none => exact (List.append_eq_nil_iff.1 cut.symm).2
  | next before goesOn _ _ ih =>
    rcases List.eq_nil_or_concat' back with rfl | ⟨earlier, value, rfl⟩
    · rfl
    · rw [← List.append_assoc] at cut
      obtain ⟨same, -⟩ := List.append_inj' cut rfl
      obtain rfl := ih same
      rw [List.append_nil] at same
      exact absurd futile (goesOn.2 front stretch same)

end Drawn

/-- How a collection ends behind the values drawn: the loop is over, there is nothing to
pick, or a draw fails. -/
inductive Ending (pick? : Draw σ (Option ι)) (render : ι → Draw σ α) (wanted : Nat)
    (drawn : List α) (stop : σ) : Except DrawError (List α) × σ → Prop
  | finished (enough : ¬ GoesOn wanted drawn) :
      Ending pick? render wanted drawn stop (.ok (distinct drawn), stop)
  | nothing {rest : σ} (goesOn : GoesOn wanted drawn)
      (none : Draw.outcome pick? stop = (.ok none, rest)) :
      Ending pick? render wanted drawn stop (.ok (distinct drawn), rest)
  | failed {e : DrawError} {rest : σ} (goesOn : GoesOn wanted drawn)
      (fails : DrawFails pick? render stop e rest) :
      Ending pick? render wanted drawn stop (.error e, rest)

/-- The ending is the outcome of the collection. -/
theorem Drawn.outcome_eq (drawing : Drawn pick? render wanted start drawn stop)
    {result : Except DrawError (List α) × σ}
    (ending : Ending pick? render wanted drawn stop result) :
    Draw.outcome (extend pick? render [] wanted) start = result := by
  obtain ⟨front, stretch, rfl, place⟩ := drawing.place
  cases ending with
  | finished enough => exact place.outcome_of_not_goesOn enough
  | nothing goesOn none => rw [place.outcome_of_goesOn goesOn, none]
  | failed goesOn fails =>
    rw [place.outcome_of_goesOn goesOn]
    rcases fails with fails | ⟨item, picked, picks, fails⟩
    · rw [fails]
    · simp only [picks, fails]

/-- The loop comes to an end, as every draw takes it closer to the last that it may make. -/
theorem Drawn.exists_ending {drawn : List α} {stop : σ}
    (drawing : Drawn pick? render wanted start drawn stop) :
    ∃ drawn stop result, Drawn pick? render wanted start drawn stop ∧
      Ending pick? render wanted drawn stop result := by
  by_cases goesOn : GoesOn wanted drawn
  · have room := drawing.length_lt goesOn
    rcases picks : Draw.outcome pick? stop with ⟨e | found, picked⟩
    · exact ⟨drawn, stop, _, drawing, .failed goesOn (.inl picks)⟩
    · cases found with
      | none => exact ⟨drawn, stop, _, drawing, .nothing goesOn picks⟩
      | some item =>
        rcases renders : Draw.outcome (render item) picked with ⟨e | value, rendered⟩
        · exact ⟨drawn, stop, _, drawing, .failed goesOn (.inr ⟨item, picked, picks, renders⟩)⟩
        · exact (drawing.next goesOn picks renders).exists_ending
  · exact ⟨drawn, stop, _, drawing, .finished goesOn⟩
termination_by maxAttempts * wanted - drawn.length
decreasing_by
  rw [List.length_append, List.length_singleton]
  omega

/-- Every collection draws some values and then ends in one of the ways there are. -/
theorem exists_drawn (pick? : Draw σ (Option ι)) (render : ι → Draw σ α) (wanted : Nat)
    (start : σ) :
    ∃ drawn stop, Drawn pick? render wanted start drawn stop ∧
      Ending pick? render wanted drawn stop
        (Draw.outcome (extend pick? render [] wanted) start) := by
  obtain ⟨drawn, stop, result, drawing, ending⟩ :=
    (Drawn.none : Drawn pick? render wanted start [] start).exists_ending
  exact ⟨drawn, stop, drawing, drawing.outcome_eq ending ▸ ending⟩

/-! ## The contract -/

/-- What is known of the values that a collection returns. -/
structure Returns (pick? : Draw σ (Option ι)) (wanted : Nat) (drawn : List α) (stop : σ)
    (values : List α) (rest : σ) : Prop where
  /-- They are the values drawn, each where it came first. -/
  eq : values = distinct drawn
  pairwise : values.Pairwise fun a b => (b == a) = false
  length_le : values.length ≤ wanted
  /-- There are too few only when there is nothing to pick or the last draws were futile. -/
  short : values.length < wanted → Draw.outcome pick? stop = (.ok none, rest) ∨
    rest = stop ∧ ∃ front stretch, drawn = front ++ stretch ∧ Futile front stretch
  /-- Nothing is drawn when there are enough. -/
  full : values.length = wanted → rest = stop
  nonempty : 1 ≤ wanted → (∀ source rest, Draw.outcome pick? source ≠ (.ok none, rest)) →
    values ≠ []

/-- Some values are missing where draws were futile, but not all. -/
theorem Futile.ne_nil {front stretch : List α} (futile : Futile front stretch) :
    distinct (front ++ stretch) ≠ [] := by
  rw [distinct_append_of_old futile.2]
  rintro none
  cases stretch with
  | nil => exact absurd futile.1 nofun
  | cons value stretch =>
    have old := futile.2 value List.mem_cons_self
    rw [none] at old
    cases old

theorem Drawn.returns (drawing : Drawn pick? render wanted start drawn stop)
    {values : List α} {rest : σ}
    (ending : Ending pick? render wanted drawn stop (.ok values, rest)) :
    Returns pick? wanted drawn stop values rest := by
  have eq : values = distinct drawn := by cases ending <;> rfl
  have short : values.length < wanted → Draw.outcome pick? stop = (.ok .none, rest) ∨
      rest = stop ∧ ∃ front stretch, drawn = front ++ stretch ∧ Futile front stretch := by
    intro missing
    cases ending with
    | finished enough =>
      rw [GoesOn, not_and] at enough
      have futile := enough missing
      push Not at futile
      exact .inr ⟨rfl, futile⟩
    | nothing _ none => exact .inl none
  refine ⟨eq, eq ▸ pairwise_distinct drawn, eq ▸ drawing.distinct_le, short, ?_, ?_⟩
  · intro enough
    cases ending with
    | finished => rfl
    | nothing goesOn => exact absurd enough (Nat.ne_of_lt goesOn.1)
  · rintro positive always rfl
    rcases short positive with none | ⟨-, front, stretch, rfl, futile⟩
    · exact always _ _ none
    · exact futile.ne_nil eq.symm

/-- The contract of a collection.  First comes the number of values wanted; then there are
draws, at most a hundred for each of them, until there are enough values, nothing to pick or
nothing new in a hundred draws.  A draw that fails is the end of it. -/
theorem collect_contract [WordSource σ] (pick? : Draw σ (Option ι)) (render : ι → Draw σ α)
    (least most : Nat) (source : σ) :
    match Draw.outcome (Draw.between least (max least most)) source with
    | (.error e, rest) =>
      Draw.outcome (collect pick? render least most) source = (.error e, rest)
    | (.ok wanted, start) =>
      (least ≤ wanted ∧ wanted ≤ max least most) ∧
      (∃ drawn stop, Drawn pick? render wanted start drawn stop ∧
        (∀ front stretch back, drawn = front ++ stretch ++ back → Futile front stretch →
          back = []) ∧
        match Draw.outcome (collect pick? render least most) source with
        | (.ok values, rest) => Returns pick? wanted drawn stop values rest
        | (.error e, rest) => GoesOn wanted drawn ∧ DrawFails pick? render stop e rest) ∧
      (∀ drawn stop, Drawn pick? render wanted start drawn stop →
        drawn.length ≤ maxAttempts * wanted ∧
          (GoesOn wanted drawn → drawn.length < maxAttempts * wanted)) ∧
      ∀ drawn stop e rest, Drawn pick? render wanted start drawn stop → GoesOn wanted drawn →
        DrawFails pick? render stop e rest →
          Draw.outcome (collect pick? render least most) source = (.error e, rest) := by
  rw [collect, outcome_bind]
  rcases counts : Draw.outcome (Draw.between least (max least most)) source with ⟨e | wanted, start⟩
  · rfl
  · have numbers : Sampling.Ends (Draw.between least (max least most) : Draw σ Nat)
        (fun wanted => least ≤ wanted ∧ wanted ≤ max least most) fun _ _ => True :=
      Sampling.ends_between (fun _ _ => trivial) (Nat.le_max_left least most)
    refine ⟨numbers.kept counts, ?_, ?_, ?_⟩
    · obtain ⟨drawn, stop, drawing, ending⟩ := exists_drawn pick? render wanted start
      refine ⟨drawn, stop, drawing, fun _ _ _ => drawing.last_of_futile, ?_⟩
      dsimp only
      rcases ended : Draw.outcome (extend pick? render [] wanted) start with ⟨e | values, rest⟩
      · rw [ended] at ending
        cases ending with
        | failed goesOn fails => exact ⟨goesOn, fails⟩
      · rw [ended] at ending
        exact drawing.returns ending
    · intro drawn stop drawing
      exact ⟨drawing.length_le, drawing.length_lt⟩
    · intro drawn stop e rest drawing goesOn fails
      exact drawing.outcome_eq (.failed goesOn fails)

end Drawn

end Collector

end PromptTemplate
