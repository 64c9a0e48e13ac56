/-
# PromptTemplate.Main -- the program

Reads files, takes a seed from the system for requests that have none, writes the
output and ends with the exit code.
-/
import PromptTemplate.CommandLine.Run

namespace PromptTemplate.CommandLine

def readFileBytes (path : Text) : IO (Option ByteArray) := do
  try
    return some (← IO.FS.readBinFile (String.ofList path))
  catch _ =>
    return none

/-- A word source that nobody can foresee. -/
def systemSource : IO ChaCha := do
  let bytes ← IO.getRandomBytes 8
  return ChaCha.ofSeed (bytes.foldl (fun seed byte => seed * 256 + byte.toUInt64) 0)

end PromptTemplate.CommandLine

def main (arguments : List String) : IO UInt32 := do
  let outcome ← PromptTemplate.CommandLine.run PromptTemplate.CommandLine.readFileBytes
    (← PromptTemplate.CommandLine.systemSource) (arguments.map fun argument => argument.toList)
  IO.print (String.ofList outcome.output)
  return UInt32.ofNat outcome.exitCode
