/-
# PromptTemplate.Proofs.Sampling.Observed -- what a random rendering comes across

A rendering is observed by running it on a source that also keeps a journal: the
wildcards that were rendered as empty because they have no values, and what each
variant collected.  The options of a variant that are nothing but a wildcard are not
rendered as templates, so they never stand in the journal.
-/
import PromptTemplate.Sampling

set_option autoImplicit false

namespace PromptTemplate.Sampling

inductive Event where
  /-- A wildcard was empty for lack of values. -/
  | emptyWildcard (name : Text)
  /-- A variant with options collected so many of the least number of picks that it
  allows, and there was something to select or not. -/
  | collected (least count : Nat) (selectable : Bool)
deriving DecidableEq

/-- A source with the journal of what was come across so far. -/
structure Observed (σ : Type) where
  source : σ
  journal : List Event

variable {σ : Type}

namespace Observed

def ofNext {α : Type} (next : σ → Option (α × σ)) (s : Observed σ) : Option (α × Observed σ) :=
  (next s.source).map fun taken => (taken.1, ⟨taken.2, s.journal⟩)

def note (event : Event) : Draw (Observed σ) Unit := fun s =>
  (.ok (), ⟨s.source, s.journal ++ [event]⟩)

theorem source_of_ofNext {α : Type} {next : σ → Option (α × σ)} {s rest : Observed σ} {word : α}
    (taken : ofNext next s = some (word, rest)) : next s.source = some (word, rest.source) := by
  obtain ⟨inner, found, same⟩ := Option.map_eq_some_iff.1 taken
  obtain ⟨rfl, rfl⟩ := Prod.mk.inj same
  exact found

variable [WordSource σ]

instance : WordSource (Observed σ) where
  next32 := ofNext WordSource.next32
  next64 := ofNext WordSource.next64
  remaining s := WordSource.remaining s.source
  remaining_next32 taken := WordSource.remaining_next32 (source_of_ofNext taken)
  remaining_next64 taken := WordSource.remaining_next64 (source_of_ofNext taken)

end Observed

variable [WordSource σ]

/-! ## Observed renderings -/

/-- A rendering of one value is noted when there is none. -/
def observeWildcard (nested : Text → Draw (Observed σ) Text) (name : Text)
    (values : List Text) : Draw (Observed σ) Text :=
  if values.isEmpty then do
    Observed.note (.emptyWildcard name)
    return []
  else wildcard nested values

/-- What a variant with options collects is noted. -/
def observeVariant (provider : Provider) (nested : Text → Draw (Observed σ) Text)
    (options : List (Weighted Template)) (renderings : List (Draw (Observed σ) Text))
    (range : PickRange) (joiner : Text) : Draw (Observed σ) Text :=
  if options.isEmpty then return []
  else do
    let selector ← Draw.ofResult (Selector.ofOptions provider options)
    let picked ← Collector.collect selector.pick? (renderPick nested selector renderings)
      range.least range.most
    Observed.note (.collected range.least picked.length selector.choice.isSome)
    return Text.joinAll joiner picked

mutual

def observe (provider : Provider) (nested : Text → Draw (Observed σ) Text) :
    Template → Draw (Observed σ) Text
  | .literal text => return text
  | .wildcard name => observeWildcard nested name (provider.resolve name)
  | .sequence parts separator => do
    let rendered ← observeParts provider nested parts
    return Text.trim (Text.joinNonEmpty separator rendered)
  | .variant options range joiner =>
    observeVariant provider nested options (observeOptions provider nested options) range joiner

def observeParts (provider : Provider) (nested : Text → Draw (Observed σ) Text) :
    List Template → Draw (Observed σ) (List Text)
  | [] => return []
  | part :: rest => do
    let text ← observe provider nested part
    return text :: (← observeParts provider nested rest)

def observeOptions (provider : Provider) (nested : Text → Draw (Observed σ) Text) :
    List (Weighted Template) → List (Draw (Observed σ) Text)
  | [] => []
  | ⟨_, value⟩ :: rest => observe provider nested value :: observeOptions provider nested rest

end

def observeValue (provider : Provider) : Nat → Text → Draw (Observed σ) Text
  | 0, value => throw (.generation (.recursionLimit maxDepth value))
  | levels + 1, value =>
    match Template.parse value with
    | .error e => throw (.generation (.parse e))
    | .ok template => observe provider (observeValue provider levels) template

def observeAt (provider : Provider) (depth : Nat) (template : Template) :
    Draw (Observed σ) Text :=
  observe provider (observeValue provider (maxDepth - depth)) template

/-- What the rendering of a template comes across on a source. -/
def events (provider : Provider) (depth : Nat) (template : Template) (source : σ) : List Event :=
  (Draw.outcome (observeAt provider depth template) ⟨source, []⟩).2.journal

end PromptTemplate.Sampling
