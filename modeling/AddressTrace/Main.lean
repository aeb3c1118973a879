import AddressTrace.CommandLine.Run

/-!
# The program

Reads arguments, files and the environment, and prints what was found.  There is no transport, so
requests over HTTP stay without a response.

## Main definitions

* `main` — the program.
-/

namespace AddressTrace

open CommandLine

/-- The text of a file. -/
def readTextFile (path : String) : IO (Except FileProblem String) := do
  try
    match String.fromUTF8? (← IO.FS.readBinFile path) with
    | some text => return .ok text
    | none => return .error .notText
  catch
    | .noFileOrDirectory .. => return .error .missing
    | .inappropriateType .. => return .error .isDirectory
    | e => return .error (.other (toString e))

/-- What the program finds around it. -/
def surroundings : Surroundings IO where
  readFile := readTextFile
  environment? name := IO.getEnv name
  send _ := return none

end AddressTrace

open AddressTrace CommandLine in
/-- **The program.** -/
def main (arguments : List String) : IO UInt32 := do
  let outcome ← run surroundings arguments
  match outcome with
  | .printed text => IO.print text
  | .failed failure => IO.eprintln ("error: " ++ failure.message)
  | .usage => IO.eprintln "error: arguments not understood"
  return UInt32.ofNat outcome.code
