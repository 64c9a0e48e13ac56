/-
# PromptTemplate.Template.Error -- what is wrong with a template text

A parse error names the fault, the byte position of it in the text without comments,
and the fragment that shows it.  All faults but a bad bound show the whole text from
their position on; a bad bound shows itself.
-/
import PromptTemplate.Text.Quoted

set_option autoImplicit false

namespace PromptTemplate

inductive Fault where
  /-- A special character where none may stand. -/
  | unexpectedCharacter (c : Char)
  | unclosedVariant
  /-- A text in front of `$$` that is no bound. -/
  | invalidBound
  | unterminatedWildcard
  | emptyWildcard
  | unclosedGroup
  | mismatchedGroup
deriving DecidableEq, Repr

def Fault.message : Fault → Text
  | .unexpectedCharacter c => "unexpected '".toList ++ [c, '\'']
  | .unclosedVariant => "unclosed variant".toList
  | .invalidBound => "invalid bound expression".toList
  | .unterminatedWildcard => "unterminated wildcard".toList
  | .emptyWildcard => "empty wildcard name".toList
  | .unclosedGroup => "unclosed bracket group".toList
  | .mismatchedGroup => "mismatched bracket".toList

structure ParseError where
  fault : Fault
  position : Nat
  fragment : Text
deriving DecidableEq

/-- The fault, its position and its fragment in words. -/
def ParseError.message (e : ParseError) : Text :=
  e.fault.message ++ " at byte ".toList ++ Text.ofNat e.position ++ ": ".toList ++
    Text.quoted e.fragment

end PromptTemplate
