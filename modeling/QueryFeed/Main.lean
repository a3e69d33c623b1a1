import QueryFeed.CommandLine.Basic

/-!
**The executable.**

Reads the file of the configuration and the variables that it refers to, and leaves the rest to the
program.  No driver is linked in, so that configurations can be checked but not run.
-/

set_option autoImplicit false

open QueryFeed QueryFeed.CommandLine

/-- The reason why a file could not be read. -/
def fileProblem (e : IO.Error) : String :=
  let coded (details : String) (code : UInt32) : String :=
    let number := if code < 0x80000000 then code else 0 - code
    details ++ " (os error " ++ toString number.toNat ++ ")"
  match e with
  | .noFileOrDirectory _ code _ => coded "No such file or directory" code
  | .permissionDenied _ code _ => coded "Permission denied" code
  | .inappropriateType _ code _ => coded "Is a directory" code
  | other => toString other

/-- Reads a file. -/
def fileContent (path : String) : IO Configuration.FileContent := do
  match ← (IO.FS.readBinFile path).toBaseIO with
  | .ok bytes => return .ok bytes.toList
  | .error e => return .error (fileProblem e)

/-- The variables of the environment to which a file refers. -/
def environmentOf (content : Configuration.FileContent) : IO Environment := do
  match content with
  | .error _ => return []
  | .ok bytes =>
      let names := Environment.references ((Text.textOfUtf8? bytes).getD "")
      let found ← names.mapM fun name => return (← IO.getEnv name).map (name, .text ·)
      return Table.ofEntries (found.filterMap id)

/-- Carries out what a command line asks for. -/
def perform (intent : Intent) : IO Outcome := do
  let content : Configuration.FileContent ←
    match intent with
    | .act invocation => fileContent invocation.configPath
    | _ => pure (.error "")
  let environment ← environmentOf content
  let noDriver : Option (Connect Unit Empty) := none
  match intent.task noDriver environment (fun _ => content) () with
  | (.done outcome, _) => return outcome
  | (.poll _ source, _) => nomatch source.2

/-- Prints an outcome, and gives its exit code. -/
def conclude (outcome : Outcome) : IO UInt32 := do
  IO.print outcome.output
  for line in (outcome.report.map Report.lines).getD [] do
    IO.eprintln line
  return UInt32.ofNat outcome.code

def main (words : List String) : IO UInt32 := do
  match Intent.ofWords words with
  | .error fault => do
      IO.eprintln ("error: " ++ fault.message ++ "\n\nUsage: " ++ Topic.program.usage ++
        "\n\nFor more information, try '--help'.")
      conclude .misuse
  | .ok intent => do
      let outcome ← perform intent
      conclude outcome
