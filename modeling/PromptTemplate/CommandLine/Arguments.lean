/-
# PromptTemplate.CommandLine.Arguments -- reading the arguments

Arguments ask for prompts, for the tree of a template (`parse` as the first argument),
for the version or for help; or they are a usage error.

Options have a long name and some a short one.  The value of an option stands in the
next argument, behind an equals sign, or directly behind a short name; short names
without a value may be run together.  Behind `--` every argument is a template.  An
argument that starts with a dash, other than the dash alone, is never a value of the
argument in front of it.

Arguments are read from left to right and the first fault ends the reading, as the
version and help do.  That a template is not given beside a file is looked at last.
-/
import PromptTemplate.Text.Numeral

set_option autoImplicit false

namespace PromptTemplate.CommandLine

/-! ## Options -/

/-- An option without a value. -/
inductive Switch where
  | combinatorial
  | unlinkSeed
  | freeze
deriving DecidableEq, Repr

/-- An option with a value. -/
inductive Setting where
  | file
  | count
  | seed
  | batches
  | wildcards
  | config
deriving DecidableEq, Repr

inductive Named where
  | switch (switch : Switch)
  | setting (setting : Setting)
  | version
  | help
deriving DecidableEq, Repr

def ofLongName? (name : Text) : Option Named :=
  [("file", Named.setting .file), ("count", .setting .count),
    ("combinatorial", .switch .combinatorial), ("seed", .setting .seed),
    ("unlink-seed", .switch .unlinkSeed), ("batches", .setting .batches),
    ("freeze", .switch .freeze), ("wildcards", .setting .wildcards), ("config", .setting .config),
    ("version", .version), ("help", .help)].findSome? fun (known, named) =>
      if known.toList = name then some named else none

def ofShortName? (c : Char) : Option Named :=
  [('f', Named.setting .file), ('n', .setting .count), ('c', .switch .combinatorial),
    ('s', .setting .seed), ('w', .setting .wildcards), ('V', .version), ('h', .help)].lookup c

structure Options where
  template : Option Text
  file : Option Text
  count : Option Nat
  combinatorial : Bool
  seed : Option UInt64
  unlinkSeed : Bool
  batches : Option UInt64
  freeze : Bool
  wildcards : Option Text
  config : Option Text
deriving DecidableEq

namespace Options

def unset : Options where
  template := none
  file := none
  count := none
  combinatorial := false
  seed := none
  unlinkSeed := false
  batches := none
  freeze := false
  wildcards := none
  config := none

/-- The options with a switch turned on, unless it is on already. -/
def turnOn (o : Options) : Switch → Option Options
  | .combinatorial => if o.combinatorial then none else some { o with combinatorial := true }
  | .unlinkSeed => if o.unlinkSeed then none else some { o with unlinkSeed := true }
  | .freeze => if o.freeze then none else some { o with freeze := true }

/-- A number as an argument: a size, a plus sign being allowed in front of it. -/
def size? : Text → Option Nat
  | '+' :: digits => Text.size? digits
  | digits => Text.size? digits

/-- The name of a file as an argument: any text but the empty one. -/
def path? (value : Text) : Option Text :=
  if value.isEmpty then none else some value

/-- The options with a setting of the value, unless it is set already or the value is not
of its kind. -/
def set (o : Options) (value : Text) : Setting → Option Options
  | .file => if o.file.isSome then none else (path? value).map fun v => { o with file := some v }
  | .count =>
    if o.count.isSome then none else (size? value).map fun v => { o with count := some v }
  | .seed =>
    if o.seed.isSome then none
    else (size? value).map fun v => { o with seed := some (UInt64.ofNat v) }
  | .batches =>
    if o.batches.isSome then none
    else (size? value).map fun v => { o with batches := some (UInt64.ofNat v) }
  | .wildcards =>
    if o.wildcards.isSome then none
    else (path? value).map fun v => { o with wildcards := some v }
  | .config =>
    if o.config.isSome then none else (path? value).map fun v => { o with config := some v }

/-- The options with the template, unless there is one. -/
def addTemplate (o : Options) (template : Text) : Option Options :=
  if o.template.isSome then none else some { o with template := some template }

end Options

/-! ## Requests -/

inductive Request where
  | prompts (options : Options)
  | tree (template : Text)
  | version
  | help
deriving DecidableEq

/-- The argument is an option, or a mark of the end of options. -/
def isOption : Text → Bool
  | '-' :: _ :: _ => true
  | _ => false

/-- What an argument with options leaves to do: to go on, to set the next argument, or to
answer at once. -/
inductive Step where
  | goOn (options : Options)
  | await (options : Options) (setting : Setting)
  | answer (request : Request)

def readShort (o : Options) : Text → Option Step
  | [] => some (.goOn o)
  | c :: rest =>
    match ofShortName? c with
    | none => none
    | some .version => some (.answer .version)
    | some .help => some (.answer .help)
    | some (.switch switch) => (o.turnOn switch).bind fun o => readShort o rest
    | some (.setting setting) =>
      match rest with
      | [] => some (.await o setting)
      | '=' :: value => (o.set value setting).map .goOn
      | value => (o.set value setting).map .goOn

/-- The long name in an argument, and its value if there is an equals sign. -/
def readLong (o : Options) (argument : Text) : Option Step :=
  let name := argument.takeWhile (· ≠ '=')
  match ofLongName? name, argument.drop name.length with
  | some (.switch switch), [] => (o.turnOn switch).map .goOn
  | some (.setting setting), [] => some (.await o setting)
  | some (.setting setting), _ :: value => (o.set value setting).map .goOn
  | some .version, [] => some (.answer .version)
  | some .help, [] => some (.answer .help)
  | _, _ => none

/-- The request for prompts, which needs no template but may not have two sources of it. -/
def Options.finish (o : Options) : Option Request :=
  if o.template.isSome ∧ o.file.isSome then none else some (.prompts o)

/-- The arguments behind `--`. -/
def readTemplates (o : Options) : List Text → Option Request
  | [] => o.finish
  | argument :: rest => (o.addTemplate argument).bind fun o => readTemplates o rest

def readOptions (o : Options) : List Text → Option Request
  | [] => o.finish
  | argument :: rest =>
    if argument = ['-', '-'] then readTemplates o rest
    else if isOption argument then
      let step :=
        match argument with
        | '-' :: '-' :: argument => readLong o argument
        | argument => readShort o (argument.drop 1)
      match step, rest with
      | none, _ => none
      | some (.goOn o), rest => readOptions o rest
      | some (.answer request), _ => some request
      | some (.await _ _), [] => none
      | some (.await o setting), value :: rest =>
        if isOption value then none else (o.set value setting).bind fun o => readOptions o rest
    else (o.addTemplate argument).bind fun o => readOptions o rest

/-- The arguments behind `parse`: one template. -/
def readTree : List Text → Option Request
  | ['-', '-'] :: rest =>
    match rest with
    | [template] => some (.tree template)
    | _ => none
  | argument :: rest =>
    if isOption argument then
      if argument = "--help".toList ∨ argument.take 2 = ['-', 'h'] then some .help else none
    else
      match rest with
      | [] => some (.tree argument)
      | [['-', '-']] => some (.tree argument)
      | next :: _ =>
        if next = "--help".toList ∨ next.take 2 = ['-', 'h'] then some .help else none
  | [] => none

/-- The arguments behind `help`: at most the name of one command. -/
def readHelp : List Text → Option Request
  | [] => some .help
  | [name] => if name = "parse".toList ∨ name = "help".toList then some .help else none
  | _ => none

/-- The request of the arguments, or none if they are a usage error. -/
def readArguments : List Text → Option Request
  | first :: rest =>
    if first = "parse".toList then readTree rest
    else if first = "help".toList then readHelp rest
    else readOptions .unset (first :: rest)
  | [] => readOptions .unset []

end PromptTemplate.CommandLine
