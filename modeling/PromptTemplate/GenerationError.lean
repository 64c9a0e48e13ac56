/-
# PromptTemplate.GenerationError -- why a prompt cannot be generated

A template, or a wildcard value that is read as a template, may fail to parse; and
wildcard values may be nested too deep.
-/
import PromptTemplate.Template.Error

set_option autoImplicit false

namespace PromptTemplate

/-- Wildcard values may be nested this deep. -/
def maxDepth : Nat := 20

inductive GenerationError where
  | parse (error : ParseError)
  | recursionLimit (limit : Nat) (value : Text)
deriving DecidableEq

def GenerationError.message : GenerationError → Text
  | .parse error => "Parse error: ".toList ++ error.message
  | .recursionLimit limit value =>
    "Recursion limit of ".toList ++ Text.ofNat limit ++ " exceeded while resolving ".toList ++
      Text.quoted value

end PromptTemplate
