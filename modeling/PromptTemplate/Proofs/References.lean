/-
# PromptTemplate.Proofs.References -- how wildcard values lead to one another

A template refers to the values of every wildcard that stands in it, and a value that
is read as a template refers to values in its turn.  A chain of references is the list of
the names and the values that are passed on the way (`Leads`).

What generating from a template fails with lies at the end of such a chain
(`FailsBelow`): a value that does not parse, or, at the end of a chain of one reference
more than there are levels, a value that is not read any more.
-/
import PromptTemplate.GenerationError
import PromptTemplate.Template.Parser
import PromptTemplate.Wildcards.Provider

set_option autoImplicit false

namespace PromptTemplate

namespace Template

/-- A template stands in another one, at any depth of its tree. -/
inductive StandsIn (inner : Template) : Template → Prop
  | itself : StandsIn inner inner
  | part {parts : List Template} {separator : Text} {part : Template} (member : part ∈ parts)
      (inside : StandsIn inner part) : StandsIn inner (.sequence parts separator)
  | option {options : List (Weighted Template)} {range : PickRange} {joiner : Text}
      {option : Weighted Template} (member : option ∈ options)
      (inside : StandsIn inner option.value) : StandsIn inner (.variant options range joiner)

theorem standsIn_of_bareWildcard? {name : Text} :
    ∀ {template : Template}, template.bareWildcard? = some name →
      StandsIn (.wildcard name) template
  | .wildcard _, bare => Option.some.inj bare ▸ .itself
  | .sequence [part] _, bare =>
    .part (List.mem_singleton_self part) (standsIn_of_bareWildcard? bare)

end Template

open Template (StandsIn)

variable {provider : Provider} {template inner : Template} {name value : Text}

/-- From the template a chain of references leads to its last value: every name is that
of a wildcard in the template, or in what the value in front of it is read as, and every
value is one that the provider has for the name. -/
inductive Leads (provider : Provider) : Template → List (Text × Text) → Text → Prop
  | single {template : Template} {name value : Text} (stands : StandsIn (.wildcard name) template)
      (isValue : value ∈ provider.resolve name) : Leads provider template [(name, value)] value
  | link {template inner : Template} {name value last : Text} {chain : List (Text × Text)}
      (stands : StandsIn (.wildcard name) template) (isValue : value ∈ provider.resolve name)
      (read : Template.parse value = .ok inner) (rest : Leads provider inner chain last) :
      Leads provider template ((name, value) :: chain) last

/-! ## Failures -/

/-- What generating from a template may fail with when values may be nested so many
levels below it. -/
def FailsBelow (provider : Provider) (levels : Nat) (template : Template) :
    GenerationError → Prop
  | .recursionLimit limit last => limit = maxDepth ∧
      ∃ chain, Leads provider template chain last ∧ chain.length = levels + 1
  | .parse e => ∃ chain last, Leads provider template chain last ∧ chain.length ≤ levels ∧
      Template.parse last = .error e

/-- A value for which no level is left is the end of a chain of one reference. -/
theorem failsBelow_limit (stands : StandsIn (.wildcard name) template)
    (isValue : value ∈ provider.resolve name) :
    FailsBelow provider 0 template (.recursionLimit maxDepth value) :=
  ⟨rfl, _, .single stands isValue, rfl⟩

theorem failsBelow_parse (stands : StandsIn (.wildcard name) template)
    (isValue : value ∈ provider.resolve name) {e : ParseError}
    (failed : Template.parse value = .error e) (levels : Nat) :
    FailsBelow provider (levels + 1) template (.parse e) :=
  ⟨_, _, .single stands isValue, Nat.succ_le_succ (Nat.zero_le levels), failed⟩

/-- What fails below a value fails one level further below a template that refers to it. -/
theorem FailsBelow.of_value (stands : StandsIn (.wildcard name) template)
    (isValue : value ∈ provider.resolve name) (read : Template.parse value = .ok inner)
    {levels : Nat} {e : GenerationError} (fails : FailsBelow provider levels inner e) :
    FailsBelow provider (levels + 1) template e := by
  cases e with
  | recursionLimit limit last =>
    obtain ⟨same, chain, leads, length⟩ := fails
    exact ⟨same, _, .link stands isValue read leads, congrArg (· + 1) length⟩
  | parse e =>
    obtain ⟨chain, last, leads, length, failed⟩ := fails
    exact ⟨_, last, .link stands isValue read leads, Nat.succ_le_succ length, failed⟩

/-! ## Templates that are reached -/

/-- The template itself, or what a value at the end of a chain of at most so many
references is read as. -/
def Reaches (provider : Provider) (levels : Nat) (template host : Template) : Prop :=
  host = template ∨ ∃ chain last, Leads provider template chain last ∧ chain.length ≤ levels ∧
    Template.parse last = .ok host

/-- What is reached from a value is reached from its reference by one more step. -/
theorem Reaches.of_value (stands : StandsIn (.wildcard name) template)
    (isValue : value ∈ provider.resolve name) (read : Template.parse value = .ok inner)
    {levels : Nat} {host : Template} (reaches : Reaches provider levels inner host) :
    Reaches provider (levels + 1) template host := by
  rcases reaches with rfl | ⟨chain, last, leads, length, found⟩
  · exact .inr ⟨_, value, .single stands isValue, Nat.succ_le_succ (Nat.zero_le levels), read⟩
  · exact .inr ⟨_, last, .link stands isValue read leads, Nat.succ_le_succ length, found⟩

end PromptTemplate
