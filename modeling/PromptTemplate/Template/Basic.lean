/-
# PromptTemplate.Template.Basic -- template trees

A template is text, a reference to a wildcard, a sequence of parts, or a variant: a
choice between weighted options, some number of which are picked and joined.

Templates are compared by `equals`, which compares weights as numbers.  What holds of
every template is proved along the tree (`tree_induction`).
-/
import PromptTemplate.Binary64.Basic
import PromptTemplate.Template.Range

set_option autoImplicit false

namespace PromptTemplate

structure Weighted (α : Type) where
  weight : Binary64
  value : α
deriving DecidableEq

inductive Template where
  | literal (text : Text)
  | wildcard (name : Text)
  | sequence (parts : List Template) (separator : Text)
  | variant (options : List (Weighted Template)) (range : PickRange) (joiner : Text)

namespace Template

/-- The separator of a sequence that a template text writes. -/
def defaultSeparator : Text := [' ']

/-- The joiner of a variant that writes none. -/
def defaultJoiner : Text := [',']

def ofParts (parts : List Template) : Template :=
  .sequence parts defaultSeparator

/-- The variant of the options with the bound that was written, if any.  Without a
bound one option is picked. -/
def ofOptions (options : List (Weighted Template)) (bound : Option Bound) (joiner : Text) :
    Template :=
  .variant options
    (match bound with
      | none => PickRange.single
      | some bound => PickRange.ofBound options.length bound)
    joiner

/-- The name of a template that is nothing but a wildcard, alone or in sequences of
one part. -/
def bareWildcard? : Template → Option Text
  | .wildcard name => some name
  | .sequence [part] _ => part.bareWildcard?
  | _ => none

/-! ## Induction -/

/-- What holds of text and of wildcards, of a sequence if it holds of its parts, and of a
variant if it holds of its options, holds of every template. -/
@[elab_as_elim, induction_eliminator]
theorem tree_induction {motive : Template → Prop} (literal : ∀ text, motive (.literal text))
    (wildcard : ∀ name, motive (.wildcard name))
    (sequence : ∀ parts separator, (∀ part ∈ parts, motive part) →
      motive (.sequence parts separator))
    (variant : ∀ options range joiner, (∀ option ∈ options, motive option.value) →
      motive (.variant options range joiner)) : ∀ template, motive template
  | .literal text => literal text
  | .wildcard name => wildcard name
  | .sequence parts separator => sequence parts separator fun part _ =>
    tree_induction literal wildcard sequence variant part
  | .variant options range joiner => variant options range joiner fun option _ =>
    tree_induction literal wildcard sequence variant option.value
decreasing_by
  · decreasing_tactic
  · rename_i member
    have below := List.sizeOf_lt_of_mem member
    rcases option with ⟨weight, value⟩
    simp only [Weighted.mk.sizeOf_spec, Template.variant.sizeOf_spec] at *
    omega

/-! ## Empty templates -/

mutual

/-- The template is a literal without text or a sequence of such. -/
def isEmpty : Template → Bool
  | .literal text => text.isEmpty
  | .sequence parts _ => allEmpty parts
  | _ => false

def allEmpty : List Template → Bool
  | [] => true
  | part :: rest => part.isEmpty && allEmpty rest

end

/-! ## Equality -/

mutual

/-- The templates are built alike, their weights being compared as numbers. -/
def equals : Template → Template → Bool
  | .literal s, .literal t => s == t
  | .wildcard s, .wildcard t => s == t
  | .sequence ps s, .sequence qs t => equalParts ps qs && s == t
  | .variant ps r s, .variant qs q t => equalOptions ps qs && r == q && s == t
  | _, _ => false

def equalParts : List Template → List Template → Bool
  | [], [] => true
  | p :: ps, q :: qs => p.equals q && equalParts ps qs
  | _, _ => false

def equalOptions : List (Weighted Template) → List (Weighted Template) → Bool
  | [], [] => true
  | ⟨v, p⟩ :: ps, ⟨w, q⟩ :: qs => v.equals w && p.equals q && equalOptions ps qs
  | _, _ => false

end

/-- A weight that is no number makes a template differ from itself. -/
example :
    let odd : Template := .variant [⟨⟨0x7ff8000000000000⟩, .literal []⟩] PickRange.single []
    odd.equals odd = false := by
  decide +kernel

end Template

end PromptTemplate
