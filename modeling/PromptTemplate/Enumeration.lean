/-
# PromptTemplate.Enumeration -- every prompt of a template

A template stands for an ordered list of renderings, computed lazily.  A literal has
one.  A sequence has the cross product of its parts, the earliest part varying
slowest, each joined without separators beside empty parts and trimmed.  A variant
has its selections, shorter ones first: single picks come straight from the options,
longer ones need all the values of every option first.  A wildcard has the renderings
of its values, each read as a template one level deeper.

An error is an element of the list.  In a sequence it stands in the place of all the
renderings that would start with it; the list goes on behind it.
-/
import PromptTemplate.GenerationError
import PromptTemplate.Selection
import PromptTemplate.Template.Parser
import PromptTemplate.Wildcards.Provider

set_option autoImplicit false

namespace PromptTemplate

/-- The renderings of a template, or errors in their place. -/
abbrev Renderings := LazyList (Except GenerationError Text)

namespace Enumeration

/-! ## Sequences -/

/-- The renderings of a part in front of those of the rest, joined. -/
def crossJoin (separator : Text) (heads : Renderings) (tails : Unit → Renderings) :
    Renderings :=
  heads.flatMap fun head =>
    match head with
    | .error e => .singleton (.error e)
    | .ok head => (tails ()).map fun tail => tail.map (Text.joinPair separator head)

/-! ## Variants -/

/-- The distinct renderings of every option, or the first error among them. -/
def optionValues (options : List (Unit → Renderings)) : Except GenerationError (List (List Text)) :=
  options.mapM fun option => (option ()).collect.map PromptTemplate.distinct

/-- The selections of one option, straight from the options. -/
def singlePicks (options : List (Unit → Renderings)) :
    LazyList (Except GenerationError (List Text)) :=
  (LazyList.ofList options).flatMap fun option =>
    (option ()).map fun value => value.map fun value => [value]

def multiplePicks (options : List (Unit → Renderings)) (least most : Nat) :
    LazyList (Except GenerationError (List Text)) :=
  if most < least then .nil
  else
    match optionValues options with
    | .error e => .singleton (.error e)
    | .ok rows => (Selection.ofLengths rows least most).map .ok

/-- The selections that a pick range allows, each once. -/
def picks (options : List (Unit → Renderings)) (range : PickRange) :
    LazyList (Except GenerationError (List Text)) :=
  LazyList.distinct <|
    (if range.least = 1 then singlePicks options else .nil).append fun _ =>
      multiplePicks options (max 2 range.least) range.most

/-- The renderings of a variant: one empty text if it has no options. -/
def variant (options : List (Unit → Renderings)) (range : PickRange) (joiner : Text) :
    Renderings :=
  if options.isEmpty then .singleton (.ok [])
  else (picks options range).map fun picked => picked.map (Text.joinAll joiner)

/-! ## Templates -/

mutual

/-- The renderings of a template, given those of a wildcard value. -/
def expand (provider : Provider) (nested : Text → Renderings) : Template → Renderings
  | .literal text => .singleton (.ok text)
  | .wildcard name => (LazyList.ofList (provider.resolve name)).flatMap nested
  | .sequence parts separator =>
    (expandParts provider nested separator parts).map fun text => text.map Text.trim
  | .variant options range joiner => variant (expandOptions provider nested options) range joiner

/-- The renderings of the parts of a sequence, joined but not trimmed. -/
def expandParts (provider : Provider) (nested : Text → Renderings) (separator : Text) :
    List Template → Renderings
  | [] => .singleton (.ok [])
  | part :: rest =>
    crossJoin separator (expand provider nested part) fun _ =>
      expandParts provider nested separator rest

def expandOptions (provider : Provider) (nested : Text → Renderings) :
    List (Weighted Template) → List (Unit → Renderings)
  | [] => []
  | ⟨_, value⟩ :: rest =>
    (fun _ => expand provider nested value) :: expandOptions provider nested rest

end

/-- The renderings of a wildcard value that may hold so many further levels of values. -/
def expandValue (provider : Provider) : Nat → Text → Renderings
  | 0, value => .singleton (.error (.recursionLimit maxDepth value))
  | levels + 1, value =>
    match Template.parse value with
    | .error e => .singleton (.error (.parse e))
    | .ok template => expand provider (expandValue provider levels) template

/-- The renderings of a template that stands so many wildcard values deep. -/
def expandAt (provider : Provider) (depth : Nat) (template : Template) : Renderings :=
  expand provider (expandValue provider (maxDepth - depth)) template

/-- The first rendering of a template, or the empty text if it has none. -/
def first (provider : Provider) (template : Template) : Except GenerationError Text :=
  (expandAt provider 0 template).head?.getD (.ok [])

/-! ## Prompts -/

/-- The first distinct renderings of a template, at most so many.  An error behind the
last of them is not reached. -/
def promptsOf (provider : Provider) (template : Template) (most : Nat) :
    Except GenerationError (List Text) :=
  if most = 0 then .ok [] else (expandAt provider 0 template).distinct.takeOk most

/-- The first distinct prompts of a template text, at most so many.  A template without
any rendering is its own only prompt. -/
def prompts (provider : Provider) (text : Text) (most : Nat) :
    Except GenerationError (List Text) :=
  match Template.parse text with
  | .error e => .error (.parse e)
  | .ok template =>
    (promptsOf provider template most).map fun found =>
      if found.isEmpty && most ≠ 0 then [text] else found

end Enumeration

end PromptTemplate
