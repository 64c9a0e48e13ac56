/-
# PromptTemplate.Wildcards.Provider -- where the values of a wildcard come from

A provider gives every name its values, in order; a name that it does not know has
none.  Names are asked for without the delimiter `__` that a template writes around
them: one is taken from the front of a name and one from the end of what is left.
-/
import PromptTemplate.Text.Space

set_option autoImplicit false

namespace PromptTemplate

/-- The values of every wildcard name. -/
abbrev Provider := Text → List Text

namespace Wildcards

/-- The name without one delimiter at its front. -/
def dropDelimiter : Text → Text
  | '_' :: '_' :: rest => rest
  | name => name

/-- The name without one delimiter at its front and one at the end of the rest. -/
def normalizeName (name : Text) : Text :=
  (dropDelimiter (dropDelimiter name).reverse).reverse

example : normalizeName "__colours__".toList = "colours".toList ∧
    normalizeName "____x____".toList = "__x__".toList ∧
    normalizeName "___".toList = "_".toList := by
  decide

end Wildcards

/-- The values that the provider has for a name, delimited or not. -/
def Provider.resolve (provider : Provider) (name : Text) : List Text :=
  provider (Wildcards.normalizeName name)

end PromptTemplate
