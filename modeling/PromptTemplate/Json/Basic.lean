/-
# PromptTemplate.Json.Basic -- JSON values

A value keeps what its text says: a number is kept as it is written, and an object
as the list of its members in order, with repeated keys.  A string that escapes half
of a surrogate pair is well formed but has no text; it is `none`, and may stand
wherever nobody asks for its text.
-/
import PromptTemplate.Text.Numeral

set_option autoImplicit false

namespace PromptTemplate

inductive Json where
  | null
  | bool (value : Bool)
  | number (written : Text)
  | string (text : Option Text)
  | array (items : List Json)
  | object (members : List (Option Text × Json))

namespace Json

def ofText (t : Text) : Json :=
  .string (some t)

def ofNat (n : Nat) : Json :=
  .number (Text.ofNat n)

def ofMembers (members : List (Text × Json)) : Json :=
  .object (members.map fun member => (some member.1, member.2))

/-! ## Reading a value as a type -/

/-- The text of a string that has one. -/
def text? : Json → Option Text
  | .string text => text
  | _ => none

def bool? : Json → Option Bool
  | .bool value => some value
  | _ => none

/-- The size: a number written with digits alone. -/
def size? : Json → Option Nat
  | .number written => Text.size? written
  | _ => none

/-- The size, or nothing for null. -/
def optionalSize? : Json → Option (Option Nat)
  | .null => some none
  | value => value.size?.map some

def texts? : Json → Option (List Text)
  | .array items => items.mapM text?
  | _ => none

/-- The members of an object all of whose keys have a text. -/
def members? : Json → Option (List (Text × Json))
  | .object members => members.mapM fun member => member.1.map fun key => (key, member.2)
  | _ => none

end Json

end PromptTemplate
