/-
# PromptTemplate.Proofs.Generator.Calls -- one stream of prompts, cut into calls

A generator is called again and again on one source, which a call that fails leaves where
it failed (`Generator.answers`).  Random prompts are drawn one behind the other, so a call
for two numbers of prompts together is the two calls one after the other
(`outcome_prompts_add_iff`), and a call that draws nothing can stand anywhere.  From these
two follows what any sequence of calls gives: the prompts of one single call, cut where the
counts say (`OneStream`), or copies of them when they are frozen (`FrozenStream`).
-/
import Mathlib.Algebra.GroupWithZero.Nat
import PromptTemplate.Generator
import PromptTemplate.Proofs.Sampling.Failures

set_option autoImplicit false

namespace PromptTemplate

/-! ## Prompts one behind the other -/

namespace Sampling

section Bind

variable {σ α β : Type}

theorem outcome_bind_eq_ok_iff {draw : Draw σ α} {next : α → Draw σ β} {source behind : σ}
    {b : β} : Draw.outcome (draw >>= next) source = (.ok b, behind) ↔
      ∃ a between, Draw.outcome draw source = (.ok a, between) ∧
        Draw.outcome (next a) between = (.ok b, behind) := by
  rw [outcome_bind]
  rcases Draw.outcome draw source with ⟨e | a, between⟩
  · exact ⟨nofun, nofun⟩
  · constructor
    · exact fun ended => ⟨a, between, rfl, ended⟩
    · rintro ⟨_, _, same, ended⟩
      obtain ⟨value, rfl⟩ := Prod.mk.inj same
      obtain rfl := Except.ok.inj value
      exact ended

end Bind

variable {σ : Type} [WordSource σ] {provider : Provider} {text : Text} {source behind : σ}

/-- Prompts asked for at once are those asked for in two goes. -/
theorem promptsOf_add (template : Template) (first second : Nat) :
    (promptsOf provider template (first + second) : Draw σ (List Text)) = do
      let front ← promptsOf provider template first
      return front ++ (← promptsOf provider template second) := by
  induction first with
  | zero => simp [promptsOf]
  | succ first ih =>
    rw [Nat.succ_add, promptsOf, ih]
    simp [promptsOf]

theorem parse_of_outcome_prompts {count : Nat} {found : List Text}
    (ended : Draw.outcome (prompts provider text count) source = (.ok found, behind)) :
    ∃ template, Template.parse text = .ok template := by
  unfold prompts at ended
  cases read : Template.parse text with
  | error e =>
    rw [read] at ended
    cases ended
  | ok template => exact ⟨template, rfl⟩

theorem outcome_prompts_zero {template : Template} (read : Template.parse text = .ok template)
    (source : σ) : Draw.outcome (prompts provider text 0) source = (.ok [], source) := by
  rw [prompts, read]
  rfl

/-- A call for two numbers of prompts succeeds as the two calls one after the other do. -/
theorem outcome_prompts_add_iff {first second : Nat} {found : List Text} :
    Draw.outcome (prompts provider text (first + second)) source = (.ok found, behind) ↔
      ∃ front back between,
        Draw.outcome (prompts provider text first) source = (.ok front, between) ∧
        Draw.outcome (prompts provider text second) between = (.ok back, behind) ∧
        front ++ back = found := by
  unfold prompts
  cases Template.parse text with
  | error e => exact ⟨nofun, nofun⟩
  | ok template =>
    simp only [promptsOf_add, outcome_bind_eq_ok_iff]
    constructor
    · rintro ⟨front, between, before, back, last, after, same⟩
      obtain ⟨value, rfl⟩ := Prod.mk.inj same
      exact ⟨front, back, between, before, after, Except.ok.inj value⟩
    · rintro ⟨front, back, between, before, after, rfl⟩
      exact ⟨front, between, before, back, behind, after, rfl⟩

end Sampling

/-! ## Calls -/

structure Call where
  text : Text
  count : Nat
deriving DecidableEq

namespace Generator

variable {σ : Type} [WordSource σ]

/-- The answers to calls one after the other on one source, and the source behind them. -/
def answers (generator : Generator) (provider : Provider) :
    List Call → σ → List (Except DrawError (List Text)) × σ
  | [], source => ([], source)
  | call :: rest, source =>
    let own := Draw.outcome (generator.prompts provider call.text call.count) source
    let later := answers generator provider rest own.2
    (own.1 :: later.1, later.2)

section Answers

variable {generator : Generator} {provider : Provider} {before after : List Call} {call : Call}
  {source behind : σ} {front others : List (Except DrawError (List Text))}
  {own : Except DrawError (List Text)}

theorem length_answers (generator : Generator) (provider : Provider) (calls : List Call)
    (source : σ) : (generator.answers provider calls source).1.length = calls.length := by
  induction calls generalizing source with
  | nil => rfl
  | cons call calls ih => exact congrArg (· + 1) (ih _)

theorem answers_cons_iff :
    generator.answers provider (call :: after) source = (own :: others, behind) ↔
      ∃ between, Draw.outcome (generator.prompts provider call.text call.count) source =
          (own, between) ∧
        generator.answers provider after between = (others, behind) := by
  constructor
  · intro ended
    obtain ⟨all, last⟩ := Prod.mk.inj ended
    obtain ⟨first, later⟩ := List.cons.inj all
    exact ⟨_, Prod.ext first rfl, Prod.ext later last⟩
  · rintro ⟨between, first, later⟩
    rw [answers, first]
    exact congrArg (fun result => (own :: result.1, result.2)) later

/-- Later calls go on where the earlier ones left the source. -/
theorem answers_append (before after : List Call) (source : σ) :
    generator.answers provider (before ++ after) source =
      let first := generator.answers provider before source
      let later := generator.answers provider after first.2
      (first.1 ++ later.1, later.2) := by
  induction before generalizing source with
  | nil => rfl
  | cons call before ih =>
    rw [List.cons_append, answers, ih]
    rfl

theorem answers_append_iff (aligned : front.length = before.length) :
    generator.answers provider (before ++ after) source = (front ++ others, behind) ↔
      ∃ between, generator.answers provider before source = (front, between) ∧
        generator.answers provider after between = (others, behind) := by
  rw [answers_append]
  constructor
  · intro ended
    obtain ⟨all, last⟩ := Prod.mk.inj ended
    obtain ⟨first, later⟩ := List.append_inj all ((length_answers ..).trans aligned.symm)
    exact ⟨_, Prod.ext first rfl, Prod.ext later last⟩
  · rintro ⟨between, first, later⟩
    rw [first]
    exact congrArg (fun result => (front ++ result.1, result.2)) later

/-- The first of the calls that all succeed. -/
theorem exists_cons_of_answers_ok {results : List (List Text)}
    (ended : generator.answers provider (call :: after) source = (results.map .ok, behind)) :
    ∃ found later between, results = found :: later ∧
      Draw.outcome (generator.prompts provider call.text call.count) source =
        (.ok found, between) ∧
      generator.answers provider after between = (later.map .ok, behind) := by
  cases results with
  | nil => cases (Prod.mk.inj ended).1
  | cons found later =>
    obtain ⟨between, first, rest⟩ := answers_cons_iff.1 ended
    exact ⟨found, later, between, rfl, first, rest⟩

/-- Each of the calls that all succeed does so where it is made. -/
theorem exists_outcome_of_answers_ok {calls : List Call} {results : List (List Text)}
    (ended : generator.answers provider calls source = (results.map .ok, behind))
    (member : call ∈ calls) :
    ∃ (start : σ) (found : List Text) (between : σ),
      Draw.outcome (generator.prompts provider call.text call.count) start =
        (.ok found, between) := by
  induction calls generalizing source results with
  | nil => cases member
  | cons first calls ih =>
    obtain ⟨found, later, between, -, own, rest⟩ := exists_cons_of_answers_ok ended
    rcases List.mem_cons.1 member with rfl | member
    · exact ⟨source, found, between, own⟩
    · exact ih rest member

end Answers

/-! ## One stream -/

/-- What the generator gives for calls on the source are the random prompts of one stream,
however it is cut into calls. -/
structure OneStream (generator : Generator) (provider : Provider) (source : σ) : Prop where
  /-- A call that succeeds may be made as two calls: they give the same prompts, and
  nothing else changes. -/
  split : ∀ (before after : List Call) (text : Text) (first second : Nat)
    (front others : List (Except DrawError (List Text))) (found : List Text) (behind : σ),
    front.length = before.length →
    generator.answers provider (before ++ ⟨text, first + second⟩ :: after) source =
      (front ++ .ok found :: others, behind) →
    ∃ one two, one ++ two = found ∧
      generator.answers provider (before ++ ⟨text, first⟩ :: ⟨text, second⟩ :: after) source =
        (front ++ .ok one :: .ok two :: others, behind)
  /-- A call that succeeds gives as many prompts as it asks for. -/
  count : ∀ calls, List.Forall₂ (fun (call : Call) answer => ∀ found, answer = .ok found →
    found.length = call.count) calls (generator.answers provider calls source).1
  /-- A call for nothing, or of a text that does not parse, changes nothing else. -/
  idle : ∀ (before after : List Call) (call : Call),
    (call.count = 0 ∨ ∃ e, Template.parse call.text = .error e) →
    ∃ front own others behind, front.length = before.length ∧
      generator.answers provider (before ++ after) source = (front ++ others, behind) ∧
      generator.answers provider (before ++ call :: after) source =
        (front ++ own :: others, behind)
  /-- Calls of one text that succeed give the prompts of one call for all of them. -/
  joined : ∀ (text : Text) (counts : List Nat) (results : List (List Text)) (behind : σ),
    (counts ≠ [] ∨ ∃ template, Template.parse text = .ok template) →
    generator.answers provider (counts.map (Call.mk text)) source = (results.map .ok, behind) →
    Draw.outcome (Sampling.prompts provider text counts.sum) source =
      (.ok results.flatten, behind)

section Random

variable {provider : Provider} {source behind : σ}

/-- A call for nothing, or of a text that does not parse, leaves the source where it is.
-/
theorem outcome_random_idle {call : Call}
    (idle : call.count = 0 ∨ ∃ e, Template.parse call.text = .error e) (source : σ) :
    (Draw.outcome (random.prompts provider call.text call.count) source).2 = source := by
  rw [prompts, Sampling.prompts]
  cases read : Template.parse call.text with
  | error e => rfl
  | ok template =>
    rcases idle with none | ⟨e, failed⟩
    · rw [none]
      rfl
    · rw [read] at failed
      cases failed

theorem answers_random_idle {call : Call}
    (idle : call.count = 0 ∨ ∃ e, Template.parse call.text = .error e) (after : List Call)
    (source : σ) :
    let own := Draw.outcome (random.prompts provider call.text call.count) source
    let later := random.answers provider after source
    random.answers provider (call :: after) source = (own.1 :: later.1, later.2) :=
  answers_cons_iff.2 ⟨source, Prod.ext rfl (outcome_random_idle idle source), rfl⟩

/-- A call that succeeds may be made as two. -/
theorem answers_random_split {text : Text} {first second : Nat} {after : List Call}
    {found : List Text} {others : List (Except DrawError (List Text))}
    (ended : random.answers provider (⟨text, first + second⟩ :: after) source =
      (.ok found :: others, behind)) :
    ∃ one two, one ++ two = found ∧
      random.answers provider (⟨text, first⟩ :: ⟨text, second⟩ :: after) source =
        (.ok one :: .ok two :: others, behind) := by
  obtain ⟨between, own, later⟩ := answers_cons_iff.1 ended
  obtain ⟨one, two, halfway, front, back, same⟩ := Sampling.outcome_prompts_add_iff.1 own
  exact ⟨one, two, same,
    answers_cons_iff.2 ⟨halfway, front, answers_cons_iff.2 ⟨between, back, later⟩⟩⟩

theorem forall₂_answers_random (calls : List Call) (source : σ) :
    List.Forall₂ (fun (call : Call) answer => ∀ found, answer = .ok found →
      found.length = call.count) calls (random.answers provider calls source).1 := by
  induction calls generalizing source with
  | nil => exact .nil
  | cons call calls ih =>
    refine .cons (fun found ended => ?_) (ih _)
    exact (Sampling.ends_prompts provider call.text call.count).kept (Prod.ext ended rfl)

theorem outcome_prompts_sum {text : Text} {template : Template}
    (read : Template.parse text = .ok template) {counts : List Nat} {results : List (List Text)}
    (ended : random.answers provider (counts.map (Call.mk text)) source =
      (results.map .ok, behind)) :
    Draw.outcome (Sampling.prompts provider text counts.sum) source =
      (.ok results.flatten, behind) := by
  induction counts generalizing source results with
  | nil =>
    obtain ⟨none, rfl⟩ := Prod.mk.inj ended
    rw [List.map_eq_nil_iff.1 none.symm]
    exact Sampling.outcome_prompts_zero read source
  | cons count counts ih =>
    obtain ⟨found, later, between, rfl, own, rest⟩ := exists_cons_of_answers_ok ended
    exact Sampling.outcome_prompts_add_iff.2 ⟨found, _, between, own, ih rest, rfl⟩

/-- Random prompts are one stream. -/
theorem oneStream_random (provider : Provider) (source : σ) :
    OneStream random provider source where
  split before after text first second front others found behind aligned ended := by
    obtain ⟨between, front', rest⟩ := (answers_append_iff aligned).1 ended
    obtain ⟨one, two, same, cut⟩ := answers_random_split rest
    exact ⟨one, two, same, (answers_append_iff aligned).2 ⟨between, front', cut⟩⟩
  count calls := forall₂_answers_random calls source
  idle before after call idle := by
    have aligned := length_answers random provider before source
    exact ⟨_, _, _, _, aligned, answers_append .., (answers_append_iff aligned).2
      ⟨_, rfl, answers_random_idle idle after _⟩⟩
  joined text counts results behind visible ended := by
    obtain ⟨template, read⟩ : ∃ template, Template.parse text = .ok template := by
      refine visible.elim (fun some => ?_) id
      obtain ⟨count, member⟩ := List.exists_mem_of_ne_nil _ some
      obtain ⟨_, _, _, own⟩ := exists_outcome_of_answers_ok ended (List.mem_map_of_mem member)
      exact Sampling.parse_of_outcome_prompts own
    exact outcome_prompts_sum read ended

end Random

/-! ## Frozen prompts -/

/-- For every count as many copies of the next prompt; a count of zero takes none. -/
def copies : List Nat → List Text → List (List Text)
  | 0 :: counts, found => [] :: copies counts found
  | (count + 1) :: counts, prompt :: found =>
    List.replicate (count + 1) prompt :: copies counts found
  | _, _ => []

/-- What the generator gives for calls on the source are copies of the prompts of one
stream, one prompt for every call that asks for any. -/
structure FrozenStream (generator : Generator) (provider : Provider) (source : σ) : Prop where
  /-- A call for nothing gives nothing and draws nothing, wherever the source is. -/
  nothing : ∀ (text : Text) (anywhere : σ),
    Draw.outcome (generator.prompts provider text 0) anywhere = (.ok [], anywhere)
  /-- Calls of one text that succeed give copies of the prompts of one call. -/
  copied : ∀ (text : Text) (counts : List Nat) (results : List (List Text)) (behind : σ),
    ((∃ count ∈ counts, count ≠ 0) ∨ ∃ template, Template.parse text = .ok template) →
    generator.answers provider (counts.map (Call.mk text)) source = (results.map .ok, behind) →
    ∃ found, Draw.outcome (Sampling.prompts provider text (counts.countP (· ≠ 0))) source =
        (.ok found, behind) ∧
      results = copies counts found

section Frozen

variable {provider : Provider} {text : Text} {source behind : σ}

/-- A call for copies draws one prompt. -/
theorem exists_prompt_of_outcome_frozen {count : Nat} {copied : List Text}
    (ended : Draw.outcome ((frozen random).prompts provider text (count + 1)) source =
      (.ok copied, behind)) :
    ∃ prompt, copied = List.replicate (count + 1) prompt ∧
      Draw.outcome (Sampling.prompts provider text 1) source = (.ok [prompt], behind) := by
  rw [prompts, if_neg (Nat.succ_ne_zero count)] at ended
  obtain ⟨found, between, drawn, last⟩ := Sampling.outcome_bind_eq_ok_iff.1 ended
  obtain ⟨prompt, rfl⟩ :=
    List.length_eq_one_iff.1 ((Sampling.ends_prompts provider text 1).kept drawn)
  obtain ⟨value, rfl⟩ := Prod.mk.inj last
  exact ⟨prompt, (Except.ok.inj value).symm, drawn⟩

/-- Every call that asks for any takes one prompt of the stream and copies it. -/
theorem exists_copies_of_answers_frozen {template : Template}
    (read : Template.parse text = .ok template) {counts : List Nat} {results : List (List Text)}
    (ended : (frozen random).answers provider (counts.map (Call.mk text)) source =
      (results.map .ok, behind)) :
    ∃ found, Draw.outcome (Sampling.prompts provider text (counts.countP (· ≠ 0))) source =
        (.ok found, behind) ∧
      results = copies counts found := by
  induction counts generalizing source results with
  | nil =>
    obtain ⟨none, rfl⟩ := Prod.mk.inj ended
    exact ⟨[], Sampling.outcome_prompts_zero read source, List.map_eq_nil_iff.1 none.symm⟩
  | cons count counts ih =>
    obtain ⟨copied, later, between, rfl, own, rest⟩ := exists_cons_of_answers_ok ended
    obtain ⟨found, drawn, same⟩ := ih rest
    cases count with
    | zero =>
      obtain ⟨value, rfl⟩ := Prod.mk.inj own
      obtain rfl := Except.ok.inj value
      refine ⟨found, ?_, by rw [copies, same]⟩
      rwa [List.countP_cons_of_neg (by decide)]
    | succ count =>
      obtain ⟨prompt, rfl, first⟩ := exists_prompt_of_outcome_frozen own
      refine ⟨prompt :: found, ?_, by rw [copies, same]⟩
      rw [List.countP_cons_of_pos (by exact decide_eq_true (Nat.succ_ne_zero count)), Nat.add_comm]
      exact Sampling.outcome_prompts_add_iff.2 ⟨[prompt], found, between, first, drawn, rfl⟩

/-- Frozen random prompts are copies of one stream. -/
theorem frozenStream_random (provider : Provider) (source : σ) :
    FrozenStream (frozen random) provider source where
  nothing _ _ := rfl
  copied text counts results behind visible ended := by
    obtain ⟨template, read⟩ : ∃ template, Template.parse text = .ok template := by
      refine visible.elim (fun ⟨count, member, asked⟩ => ?_) id
      obtain ⟨more, rfl⟩ := Nat.exists_eq_succ_of_ne_zero asked
      obtain ⟨_, _, _, own⟩ := exists_outcome_of_answers_ok ended (List.mem_map_of_mem member)
      obtain ⟨_, -, drawn⟩ := exists_prompt_of_outcome_frozen own
      exact Sampling.parse_of_outcome_prompts drawn
    exact exists_copies_of_answers_frozen read ended

end Frozen

end Generator

namespace Configuration

/-- What a seeded random configuration builds gives one stream of prompts, or copies of the
prompts of one stream if it is frozen. -/
theorem seeded_random_stream {c : Configuration} {seed : UInt64} (mode : c.mode = .random)
    (seeded : c.effectiveSeed = some seed) (provider : Provider) (entropy : ChaCha) :
    c.source entropy = ChaCha.ofSeed seed ∧
      (c.freeze = false → c.generator.OneStream provider (ChaCha.ofSeed seed)) ∧
      (c.freeze = true → c.generator.FrozenStream provider (ChaCha.ofSeed seed)) := by
  refine ⟨by rw [source, seeded], fun loose => ?_, fun frozen => ?_⟩
  · have built : c.generator = .random := by simp [generator, mode, loose]
    rw [built]
    exact Generator.oneStream_random provider _
  · have built : c.generator = .frozen .random := by simp only [generator, mode, frozen, if_true]
    rw [built]
    exact Generator.frozenStream_random provider _

/-- Calls for one and for two prompts draw the three prompts of one call; frozen, calls for
two, for none and for one draw the two prompts of one call. -/
theorem seeded_random_stream_seven :
    let c := { standard with seed := some 7 }
    let text := "{a|b|c|d}".toList
    let answers (freeze : Bool) (counts : List Nat) :=
      { c with freeze }.generator.answers (fun _ => []) (counts.map (Call.mk text))
        (ChaCha.ofSeed 7)
    let drawn (count : Nat) :=
      Draw.outcome (Sampling.prompts (fun _ => []) text count) (ChaCha.ofSeed 7)
    (answers false [1, 2]).1 = [.ok [['b']], .ok [['c'], ['d']]] ∧
      drawn 3 = (.ok [['b'], ['c'], ['d']], (answers false [1, 2]).2) ∧
      (answers true [2, 0, 1]).1 = [.ok [['b'], ['b']], .ok [], .ok [['c']]] ∧
      ∃ found, drawn 2 = (.ok found, (answers true [2, 0, 1]).2) ∧
        Generator.copies [2, 0, 1] found = [[['b'], ['b']], [], [['c']]] := by
  intro c text answers drawn
  have seeded (freeze : Bool) : { c with freeze }.effectiveSeed = some 7 := rfl
  have streams (freeze : Bool) := seeded_random_stream (c := { c with freeze }) rfl
    (seeded freeze) (fun _ => []) (ChaCha.ofSeed 0)
  have cut : (answers false [1, 2]).1 = [.ok [['b']], .ok [['c'], ['d']]] := by decide +kernel
  have copied : (answers true [2, 0, 1]).1 = [.ok [['b'], ['b']], .ok [], .ok [['c']]] := by
    decide +kernel
  obtain ⟨-, stream, -⟩ := streams false
  obtain ⟨-, -, frozen⟩ := streams true
  obtain ⟨found, one, same⟩ := (frozen rfl).copied text [2, 0, 1] [[['b'], ['b']], [], [['c']]] _
    (.inl ⟨2, by decide, by decide⟩) (Prod.ext copied rfl)
  exact ⟨cut, (stream rfl).joined text [1, 2] [[['b']], [['c'], ['d']]] _ (.inl (by decide))
    (Prod.ext cut rfl), copied, found, one, same.symm⟩

end Configuration

end PromptTemplate
