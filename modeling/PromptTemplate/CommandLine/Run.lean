/-
# PromptTemplate.CommandLine.Run -- what the program does with its arguments

A request for prompts writes them to the output, numbered from one.  Options count
more than the configuration file.  Without a count a combinatorial request gives as
many prompts as the configuration allows, and any other request gives one.

The exit code is 2 for a usage error and 1 when a file cannot be loaded or a prompt
cannot be generated, and then the output is empty.  Weights with an infinite sum end
the program with the exit code 101.
-/
import PromptTemplate.CommandLine.Arguments
import PromptTemplate.Generator
import PromptTemplate.Loading
import PromptTemplate.Template.Json
import PromptTemplate.Wildcards.Json

set_option autoImplicit false

namespace PromptTemplate.CommandLine

structure Outcome where
  exitCode : Nat
  output : Text
deriving DecidableEq

def usageError : Nat := 2

/-- The exit code of a request that cannot be carried out. -/
def failure : Nat := 1

def exitCodeOf : DrawError → Nat
  | .infiniteTotal => 101
  | _ => failure

def versionText : Text :=
  "promptgen 0.1.0".toList

def helpText : Text :=
  "Usage: promptgen [OPTIONS] [TEMPLATE]\n       promptgen parse <TEMPLATE>".toList

/-- A step that may end the program with an exit code. -/
abbrev Attempt (m : Type → Type) := ExceptT Nat m

variable {m : Type → Type} [Monad m]

def Attempt.ofResult {ε α : Type} (result : Except ε α) : Attempt m α :=
  match result with
  | .ok value => return value
  | .error _ => throw failure

/-- The template: the argument, or the text of the file. -/
def loadTemplate (readFile : Text → m (Option ByteArray)) (o : Options) : Attempt m Text :=
  match o.template, o.file with
  | some template, _ => return template
  | none, some path => do Attempt.ofResult (loadText (← liftM (readFile path)))
  | none, none => throw failure

/-- The value in a file, or the given one when no file is named. -/
def loadOr {α : Type} (readFile : Text → m (Option ByteArray)) (read? : Text → Option α)
    (fallback : α) : Option Text → Attempt m α
  | some path => do Attempt.ofResult (loadAs read? (← liftM (readFile path)))
  | none => return fallback

def Options.override (o : Options) (c : Configuration) : Configuration where
  mode := if o.combinatorial then .combinatorial else c.mode
  seed := if o.seed.isSome then o.seed else c.seed
  unlinkSeed := o.unlinkSeed || c.unlinkSeed
  batches := o.batches.getD c.batches
  freeze := o.freeze || c.freeze
  maxPrompts := c.maxPrompts

def defaultCount : Mode → Nat
  | .combinatorial => 0
  | _ => 1

/-- The prompts, numbered from the given number, each with a line end. -/
def numberedLines (number : Nat) : List Text → Text
  | [] => []
  | prompt :: rest =>
    Text.ofNat number ++ ['.', ' '] ++ prompt ++ ['\n'] ++ numberedLines (number + 1) rest

def promptsOutput (readFile : Text → m (Option ByteArray)) (entropy : ChaCha) (o : Options) :
    Attempt m Text := do
  let template ← loadTemplate readFile o
  let c ← loadOr readFile Configuration.read? Configuration.standard o.config
  let c := o.override c
  let wildcards ← loadOr readFile Wildcards.read? Wildcards.empty o.wildcards
  let count := o.count.getD (defaultCount c.mode)
  match (Draw.outcome (c.generator.prompts wildcards.provider template count)
    (c.source entropy)).1 with
  | .ok prompts => return numberedLines 1 prompts
  | .error e => throw (exitCodeOf e)

def output (readFile : Text → m (Option ByteArray)) (entropy : ChaCha) : Request → Attempt m Text
  | .prompts options => promptsOutput readFile entropy options
  | .tree text =>
    match Template.parse text with
    | .ok template => return template.toJson.pretty ++ ['\n']
    | .error _ => throw failure
  | .version => return versionText ++ ['\n']
  | .help => return helpText ++ ['\n']

/-- What the program does with its arguments, given how files are read and the source of
random words when there is no seed. -/
def run (readFile : Text → m (Option ByteArray)) (entropy : ChaCha) (arguments : List Text) :
    m Outcome := do
  match readArguments arguments with
  | none => return ⟨usageError, []⟩
  | some request =>
    match ← (output readFile entropy request).run with
    | .ok text => return ⟨0, text⟩
    | .error code => return ⟨code, []⟩

end PromptTemplate.CommandLine
