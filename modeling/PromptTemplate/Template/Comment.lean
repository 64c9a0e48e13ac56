/-
# PromptTemplate.Template.Comment -- comments in template texts

A line comment starts with `#` or `//` and ends in front of the line end, which
stays.  A block comment starts with `/*` and ends behind the next `*/`; one space
stands in its place.  A comment that nothing ends runs to the end of the text.
-/
import PromptTemplate.Text.Space

set_option autoImplicit false

namespace PromptTemplate.Template

mutual

def stripComments : Text → Text
  | [] => []
  | '#' :: rest => afterLine rest
  | '/' :: '/' :: rest => afterLine rest
  | '/' :: '*' :: rest => ' ' :: afterBlock rest
  | c :: rest => c :: stripComments rest

/-- What is left of a text that starts inside a line comment. -/
def afterLine : Text → Text
  | [] => []
  | '\n' :: rest => '\n' :: stripComments rest
  | _ :: rest => afterLine rest

/-- What is left of a text that starts inside a block comment. -/
def afterBlock : Text → Text
  | [] => []
  | '*' :: '/' :: rest => stripComments rest
  | _ :: rest => afterBlock rest

end

/-- The star of the opening does not close its own comment. -/
example : stripComments "a/*/b*/c#d\ne".toList = "a c\ne".toList := by decide

end PromptTemplate.Template
