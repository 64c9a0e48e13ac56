/-
# PromptTemplate.Template.Json -- a template as JSON

A template is an object that starts with its `type`.  The bounds of a variant are
plain numbers; a weight is the decimal text of its number, and null when it has none.
-/
import PromptTemplate.Binary64.Decimal
import PromptTemplate.Json.Printer
import PromptTemplate.Template.Basic

set_option autoImplicit false

namespace PromptTemplate

def Binary64.toJson (x : Binary64) : Json :=
  match x.decimalText? with
  | some text => .number text
  | none => .null

namespace Template

mutual

def toJson : Template → Json
  | .literal text => .ofMembers
    [("type".toList, .ofText "literal".toList), ("text".toList, .ofText text)]
  | .wildcard name => .ofMembers
    [("type".toList, .ofText "wildcard".toList), ("name".toList, .ofText name)]
  | .sequence parts separator => .ofMembers
    [("type".toList, .ofText "sequence".toList), ("parts".toList, .array (partsToJson parts)),
      ("separator".toList, .ofText separator)]
  | .variant options range joiner => .ofMembers
    [("type".toList, .ofText "variant".toList),
      ("options".toList, .array (optionsToJson options)),
      ("min_bound".toList, .ofNat range.least), ("max_bound".toList, .ofNat range.most),
      ("joiner".toList, .ofText joiner)]

def partsToJson : List Template → List Json
  | [] => []
  | part :: rest => part.toJson :: partsToJson rest

def optionsToJson : List (Weighted Template) → List Json
  | [] => []
  | ⟨weight, value⟩ :: rest =>
    .ofMembers [("weight".toList, weight.toJson), ("value".toList, value.toJson)] ::
      optionsToJson rest

end

end Template

end PromptTemplate
