/-
# PromptTemplate.Loading -- texts from files

A file gives a text when it is there and its bytes are UTF-8; all else is an
unreadable file.  A text that is read but does not write what it should is malformed.
-/
import PromptTemplate.Text.Space

set_option autoImplicit false

namespace PromptTemplate

inductive LoadError where
  /-- There is no file, or its bytes are not UTF-8. -/
  | unreadable
  | malformed
deriving DecidableEq, Repr

/-- The text of the bytes of a file, if the file is there. -/
def loadText (bytes : Option ByteArray) : Except LoadError Text :=
  match bytes.bind String.fromUTF8? with
  | some s => .ok s.toList
  | none => .error .unreadable

def loadAs {α : Type} (read? : Text → Option α) (bytes : Option ByteArray) : Except LoadError α :=
  match loadText bytes with
  | .error e => .error e
  | .ok t =>
    match read? t with
    | some value => .ok value
    | none => .error .malformed

end PromptTemplate
