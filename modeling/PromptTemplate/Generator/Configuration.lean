/-
# PromptTemplate.Generator.Configuration -- how prompts are to be generated

A configuration has six fields, each with a default.  As JSON it is an object with a
key for each field; a field that is not written has its default, an unknown key is
passed over, and a known key may not be repeated.  An array gives the fields in
order, and may stop early.  Only the seed may be null.
-/
import PromptTemplate.Json.Printer
import PromptTemplate.Json.Reader

set_option autoImplicit false

namespace PromptTemplate

inductive Mode where
  | random
  /-- All prompts in order, up to a number. -/
  | combinatorial
  | dummy
deriving DecidableEq, Repr

structure Configuration where
  mode : Mode
  seed : Option UInt64
  /-- Random prompts ignore the seed. -/
  unlinkSeed : Bool
  /-- How often all prompts are listed. -/
  batches : UInt64
  /-- One prompt is generated and repeated. -/
  freeze : Bool
  /-- The number of prompts when none is asked for. -/
  maxPrompts : UInt64
deriving DecidableEq, Repr

namespace Configuration

/-- The configuration that nothing is said about. -/
def standard : Configuration where
  mode := .random
  seed := none
  unlinkSeed := false
  batches := 1
  freeze := false
  maxPrompts := 1000

/-- The seed that random prompts use, if any. -/
def effectiveSeed (c : Configuration) : Option UInt64 :=
  if c.unlinkSeed then none else c.seed

/-! ## JSON -/

def modeName : Mode → Text
  | .random => "random".toList
  | .combinatorial => "combinatorial".toList
  | .dummy => "dummy".toList

def modeOfName? (name : Text) : Option Mode :=
  [Mode.random, .combinatorial, .dummy].find? fun mode => modeName mode == name

/-- The mode of a JSON value: its name, or an object with its name as the only key and
null behind it. -/
def modeOfJson? : Json → Option Mode
  | .string (some name) => modeOfName? name
  | .object [(some name, .null)] => modeOfName? name
  | _ => none

inductive Field where
  | mode
  | seed
  | unlinkSeed
  | batches
  | freeze
  | maxPrompts
deriving DecidableEq, Repr

namespace Field

def all : List Field :=
  [.mode, .seed, .unlinkSeed, .batches, .freeze, .maxPrompts]

def key : Field → Text
  | .mode => "mode".toList
  | .seed => "seed".toList
  | .unlinkSeed => "unlink_seed_from_prompt".toList
  | .batches => "combinatorial_batches".toList
  | .freeze => "freeze_prompt".toList
  | .maxPrompts => "max_prompts".toList

def ofKey? (name : Text) : Option Field :=
  all.find? fun field => field.key == name

def get (c : Configuration) : Field → Json
  | .mode => .ofText (modeName c.mode)
  | .seed =>
    match c.seed with
    | none => .null
    | some word => .ofNat word.toNat
  | .unlinkSeed => .bool c.unlinkSeed
  | .batches => .ofNat c.batches.toNat
  | .freeze => .bool c.freeze
  | .maxPrompts => .ofNat c.maxPrompts.toNat

/-- The configuration with a field set from a JSON value of the field's kind. -/
def set? (c : Configuration) (value : Json) : Field → Option Configuration
  | .mode => (modeOfJson? value).map fun mode => { c with mode }
  | .seed => value.optionalSize?.map fun seed => { c with seed := seed.map UInt64.ofNat }
  | .unlinkSeed => value.bool?.map fun unlinkSeed => { c with unlinkSeed }
  | .batches => value.size?.map fun n => { c with batches := UInt64.ofNat n }
  | .freeze => value.bool?.map fun freeze => { c with freeze }
  | .maxPrompts => value.size?.map fun n => { c with maxPrompts := UInt64.ofNat n }

end Field

/-- The standard configuration with the given fields set. -/
def ofFields? (fields : List (Field × Json)) : Option Configuration :=
  fields.foldlM (fun c (field, value) => field.set? c value) standard

def ofJson? : Json → Option Configuration
  | .array items =>
    if items.length ≤ Field.all.length then ofFields? (Field.all.zip items) else none
  | value => do
    let members ← value.members?
    let fields := members.filterMap fun (key, value) =>
      (Field.ofKey? key).map fun field => (field, value)
    if (fields.map fun entry => entry.1).Nodup then ofFields? fields else none

def read? (t : Text) : Option Configuration :=
  (Json.read? t).bind ofJson?

/-- The JSON object of a configuration, all fields in order. -/
def toJson (c : Configuration) : Json :=
  .ofMembers (Field.all.map fun field => (field.key, field.get c))

/-- The compact JSON text of a configuration. -/
def jsonText (c : Configuration) : Text :=
  c.toJson.compact

end Configuration

end PromptTemplate
