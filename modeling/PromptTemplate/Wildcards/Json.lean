/-
# PromptTemplate.Wildcards.Json -- tables of wildcards as JSON

A table is written as one object from names to arrays of strings, the names in order.
In a text that is read, the last of repeated keys counts.  Keys are then taken in
order with their delimiters dropped, so of several keys for one name the greatest
counts.
-/
import PromptTemplate.Json.Printer
import PromptTemplate.Json.Reader
import PromptTemplate.Wildcards.Basic

set_option autoImplicit false

namespace PromptTemplate.Wildcards

/-- The table of the members of an object, keys as they are written. -/
def ofMembers (members : List (Text × List Text)) : Wildcards :=
  let keyed := members.foldl (fun entries member => insertEntry member.1 member.2 entries) []
  keyed.foldl (fun table entry => table.insert entry.1 entry.2) empty

/-- The table of a JSON value: an object whose members are arrays of strings. -/
def ofJson? (value : Json) : Option Wildcards := do
  let members ← value.members?
  let members ← members.mapM fun member => member.2.texts?.map fun values => (member.1, values)
  return ofMembers members

def read? (t : Text) : Option Wildcards :=
  (Json.read? t).bind ofJson?

def toJson (table : Wildcards) : Json :=
  .ofMembers (table.entries.map fun entry => (entry.1, .array (entry.2.map Json.ofText)))

def jsonText (table : Wildcards) : Text :=
  table.toJson.compact

end PromptTemplate.Wildcards
