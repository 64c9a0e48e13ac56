/-
# PromptTemplate.Proofs.Template.Canonical -- canonical trees and their texts

A tree is canonical when it is what some template text writes, as far as this can be
told from its shape and its literals, names, joiners and weights.  `print` writes a
canonical tree: literals as they stand, names between delimiters, and every variant with
its bound, its joiner and the weight of each option.
-/
import PromptTemplate.Proofs.Template.Comments
import PromptTemplate.Template.Parser

set_option autoImplicit false

namespace PromptTemplate.Template

/-! ## Names, joiners and weights -/

/-- A text that can stand between the delimiters of a wildcard. -/
structure IsName (name : Text) : Prop where
  nonempty : name ≠ []
  no_delimiter : ¬ ['_', '_'] <:+: name
  no_underscore : name.getLast? ≠ some '_'
  commentFree : CommentFree name

/-- A text that can stand between the delimiters of a joiner. -/
structure IsJoiner (joiner : Text) : Prop where
  no_sign : ∀ c ∈ joiner, ¬ (c = '{' ∨ c = '}' ∨ c = '|')
  no_delimiter : ¬ ['$', '$'] <:+: joiner
  no_dollar : joiner.getLast? ≠ some '$'
  commentFree : CommentFree joiner

/-- The decimal texts of a weight: digits, digits with a fraction, or a fraction alone. -/
inductive WritesWeight : Text → Binary64 → Prop where
  | digits {whole : Text} (some : whole ≠ []) (whole_digits : whole.all Text.isDigit = true) :
    WritesWeight whole (.ofDecimal whole [])
  | fraction {whole fraction : Text} (some : fraction ≠ [])
    (whole_digits : whole.all Text.isDigit = true)
    (fraction_digits : fraction.all Text.isDigit = true) :
    WritesWeight (whole ++ '.' :: fraction) (.ofDecimal whole fraction)

/-- Some decimal text converts to the weight. -/
def IsDecimal (weight : Binary64) : Prop :=
  ∃ t, WritesWeight t weight

/-! ## Canonical trees -/

def isLiteral : Template → Bool
  | .literal _ => true
  | _ => false

/-- One of the two has to keep them from being one literal. -/
def Apart (a b : Template) : Prop :=
  ¬ (a.isLiteral = true ∧ b.isLiteral = true)

mutual

/-- What a template text writes, the numbers of picks being below the limit. -/
def CanonicalBelow (limit : Nat) : Template → Prop
  | .sequence parts separator =>
    separator = defaultSeparator ∧ CanonicalParts limit parts ∧ parts.IsChain Apart
  | _ => False

/-- What can stand in a sequence: text that writes itself, a wildcard, or a variant. -/
def CanonicalPart (limit : Nat) : Template → Prop
  | .literal text => text ≠ [] ∧ parse text = .ok (.ofParts [.literal text])
  | .wildcard name => IsName name
  | .variant options range joiner =>
    options ≠ [] ∧ CanonicalOptions limit options ∧ range.most < limit ∧ IsJoiner joiner
  | .sequence _ _ => False

def CanonicalParts (limit : Nat) : List Template → Prop
  | [] => True
  | part :: rest => CanonicalPart limit part ∧ CanonicalParts limit rest

def CanonicalOptions (limit : Nat) : List (Weighted Template) → Prop
  | [] => True
  | ⟨weight, value⟩ :: rest =>
    IsDecimal weight ∧ CanonicalBelow limit value ∧ CanonicalOptions limit rest

end

/-- What a template text writes. -/
abbrev Canonical : Template → Prop :=
  CanonicalBelow Text.sizeLimit

/-! ## Printing -/

mutual

/-- The text of a template, given the texts of weights. -/
def print (written : Binary64 → Text) : Template → Text
  | .literal text => text
  | .wildcard name => ['_', '_'] ++ name ++ ['_', '_']
  | .sequence parts _ => Text.joinAll [' '] (printParts written parts)
  | .variant options range joiner =>
    ['{'] ++ Text.ofNat range.least ++ ['-'] ++ Text.ofNat range.most ++ ['$', '$'] ++ joiner ++
      ['$', '$'] ++ Text.joinAll ['|'] (printOptions written options) ++ ['}']

def printParts (written : Binary64 → Text) : List Template → List Text
  | [] => []
  | part :: rest => print written part :: printParts written rest

/-- The text of each option: its weight and its value. -/
def printOptions (written : Binary64 → Text) : List (Weighted Template) → List Text
  | [] => []
  | ⟨weight, value⟩ :: rest =>
    (written weight ++ [':', ':'] ++ print written value) :: printOptions written rest

end

end PromptTemplate.Template
