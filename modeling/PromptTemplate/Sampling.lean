/-
# PromptTemplate.Sampling -- random prompts of a template

A template is rendered by one random walk.  A literal is its text.  A sequence renders
its parts in order and joins those that are not empty.  A variant collects distinct
renderings of its options by weight and joins them.  A wildcard renders one of its
values, each equally likely, read as a template one level deeper; it is empty when
there are none.
-/
import PromptTemplate.Sampling.Collector
import PromptTemplate.Sampling.Selector
import PromptTemplate.Template.Parser

set_option autoImplicit false

namespace PromptTemplate.Sampling

variable {σ : Type} [WordSource σ]

/-- The rendering of one value, each being equally likely. -/
def wildcard (nested : Text → Draw σ Text) (values : List Text) : Draw σ Text :=
  if values.isEmpty then return []
  else do
    let index ← Draw.below32 values.length
    nested (values[index]?.getD [])

def renderPick (nested : Text → Draw σ Text) (selector : Selector)
    (renderings : List (Draw σ Text)) (pick : Pick) : Draw σ Text :=
  match selector.selected? pick with
  | some (.template _) => renderings[pick.option]?.getD (return [])
  | some (.value text) => nested text
  | none => return []

/-- The rendering of a variant: empty if it has no options. -/
def variant (provider : Provider) (nested : Text → Draw σ Text)
    (options : List (Weighted Template)) (renderings : List (Draw σ Text)) (range : PickRange)
    (joiner : Text) : Draw σ Text :=
  if options.isEmpty then return []
  else do
    let selector ← Draw.ofResult (Selector.ofOptions provider options)
    let picked ← Collector.collect selector.pick? (renderPick nested selector renderings)
      range.least range.most
    return Text.joinAll joiner picked

mutual

def render (provider : Provider) (nested : Text → Draw σ Text) : Template → Draw σ Text
  | .literal text => return text
  | .wildcard name => wildcard nested (provider.resolve name)
  | .sequence parts separator => do
    let rendered ← renderParts provider nested parts
    return Text.trim (Text.joinNonEmpty separator rendered)
  | .variant options range joiner =>
    variant provider nested options (renderOptions provider nested options) range joiner

def renderParts (provider : Provider) (nested : Text → Draw σ Text) :
    List Template → Draw σ (List Text)
  | [] => return []
  | part :: rest => do
    let text ← render provider nested part
    return text :: (← renderParts provider nested rest)

def renderOptions (provider : Provider) (nested : Text → Draw σ Text) :
    List (Weighted Template) → List (Draw σ Text)
  | [] => []
  | ⟨_, value⟩ :: rest => render provider nested value :: renderOptions provider nested rest

end

/-- The rendering of a wildcard value that may hold so many further levels of values. -/
def renderValue (provider : Provider) : Nat → Text → Draw σ Text
  | 0, value => throw (.generation (.recursionLimit maxDepth value))
  | levels + 1, value =>
    match Template.parse value with
    | .error e => throw (.generation (.parse e))
    | .ok template => render provider (renderValue provider levels) template

def renderAt (provider : Provider) (depth : Nat) (template : Template) : Draw σ Text :=
  render provider (renderValue provider (maxDepth - depth)) template

def promptsOf (provider : Provider) (template : Template) : Nat → Draw σ (List Text)
  | 0 => return []
  | count + 1 => do
    let prompt ← renderAt provider 0 template
    return prompt :: (← promptsOf provider template count)

/-- So many random prompts of a template text; nothing is drawn if it does not parse. -/
def prompts (provider : Provider) (text : Text) (count : Nat) : Draw σ (List Text) :=
  match Template.parse text with
  | .error e => throw (.generation (.parse e))
  | .ok template => promptsOf provider template count

end PromptTemplate.Sampling
