/-
# PromptTemplate.Sampling.Selector -- picking options by weight

A selector picks among the options of a variant, with repetition.  An option that is
nothing but a wildcard stands for the values of the wildcard: its weight is shared
evenly among them, and it has no weight when there are none.

A pick names the option, and the value if the option stands for values; `selected?`
says what it refers to.
-/
import PromptTemplate.Random.Weights
import PromptTemplate.Template.Basic
import PromptTemplate.Wildcards.Provider

set_option autoImplicit false

namespace PromptTemplate

/-- A picked option, and which of its values if it stands for values. -/
structure Pick where
  option : Nat
  value : Option Nat
deriving DecidableEq, Repr

/-- What an option stands for. -/
inductive Alternative where
  | template (template : Template)
  | values (texts : List Text)

namespace Alternative

def ofTemplate (provider : Provider) (template : Template) : Alternative :=
  match template.bareWildcard? with
  | some name => .values (provider.resolve name)
  | none => .template template

/-- There is something to select. -/
def isSelectable : Alternative → Bool
  | .template _ => true
  | .values texts => !texts.isEmpty

end Alternative

/-- What a pick refers to: a template, or a wildcard value that is not yet read. -/
inductive Selected where
  | template (template : Template)
  | value (text : Text)

/-- Selected templates and values are compared each with its kind. -/
def Selected.equals : Selected → Selected → Bool
  | .template s, .template t => s.equals t
  | .value s, .value t => s == t
  | _, _ => false

instance : BEq Selected := ⟨Selected.equals⟩

/-- The alternatives of a variant, and the choice between them if there is one. -/
structure Selector where
  alternatives : List Alternative
  choice : Option WeightedChoice

namespace Selector

/-- The weight of an option: none if there is nothing to select. -/
def weightOf (provider : Provider) (option : Weighted Template) : Binary64 :=
  if (Alternative.ofTemplate provider option.value).isSelectable then option.weight else ⟨0⟩

def ofOptions (provider : Provider) (options : List (Weighted Template)) :
    Except DrawError Selector :=
  (WeightedChoice.ofWeights? (options.map (weightOf provider))).map fun choice =>
    ⟨options.map fun option => Alternative.ofTemplate provider option.value, choice⟩

/-- What a pick refers to, if it is a pick of this selector. -/
def selected? (selector : Selector) (pick : Pick) : Option Selected :=
  match selector.alternatives[pick.option]?, pick.value with
  | some (.template template), none => some (.template template)
  | some (.values texts), some index => texts[index]?.map .value
  | _, _ => none

variable {σ : Type} [WordSource σ]

/-- The index of a value, if the option stands for values; each is equally likely. -/
def drawValue (selector : Selector) (option : Nat) : Draw σ (Option Nat) :=
  match selector.alternatives[option]? with
  | some (.values texts) => do return some (← Draw.below64 texts.length)
  | _ => return none

/-- A pick, unless there is nothing to choose between. -/
def pick? (selector : Selector) : Draw σ (Option Pick) :=
  match selector.choice with
  | none => return none
  | some choice => do
    let option ← choice.draw
    let value ← selector.drawValue option
    return some ⟨option, value⟩

/-- So many picks, or none if there is nothing to choose between. -/
def picks (selector : Selector) : Nat → Draw σ (List Pick)
  | 0 => return []
  | n + 1 => do
    match ← selector.pick? with
    | none => return []
    | some pick => return pick :: (← selector.picks n)

end Selector

end PromptTemplate
