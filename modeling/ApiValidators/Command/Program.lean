import ApiValidators.Command.Line
import ApiValidators.Command.Run

/-!
# The program

What a command line does: which command runs, what is printed, and how the program ends.
-/

namespace ApiValidators.Command

variable {m : Type → Type} [Monad m]

/-- How the program ends. -/
inductive Ending where
  /-- All went well, and this is printed. -/
  | done (output : String)
  | failed (failure : Failure)
  /-- The command line asks for nothing that there is. -/
  | misused
  deriving Repr, DecidableEq

namespace Ending

def code : Ending → Nat
  | done _ => 0
  | failed _ => 1
  | misused => 2

end Ending

def programName : String := "zodgen"

def programVersion : String := "0.3.0"

def usage : String :=
  "Generate zod validators from OpenAPI documents\n\n" ++
  "Usage: " ++ programName ++ " [-v] generate [-i INPUT] [-o OUTPUT] [-c] [-p] [-q] [--nullable-mode MODE]\n" ++
  "                            [--no-banners] [--config CONFIG]\n" ++
  "       " ++ programName ++ " [-v] check -i INPUT\n" ++
  "       " ++ programName ++ " --version\n"

namespace Summary

def text (s : Summary) : String :=
  "✓ Wrote " ++ toString s.statements ++ " statements (" ++ toString s.bytes ++ " bytes) to " ++ s.output ++ "\n"

end Summary

namespace Report

/-- What is printed about a document that can be used. -/
def text (r : Report) : String :=
  "✓ OpenAPI: " ++ r.openapi ++ "\n✓ Schemas: " ++ toString r.schemas ++ "\n✓ Paths: " ++ toString r.paths ++ " (" ++
    toString r.operations ++ " operations)\n\nDocument is valid!\n"

end Report

/-- The end that a command comes to, given what is printed if all went well. -/
def Ending.of {α : Type} (text : α → String) : Outcome α → Ending × List Warning
  | (.ok a, warnings) => (.done (text a), warnings)
  | (.error failure, warnings) => (.failed failure, warnings)

/-- Generates with the settings that a configuration and a command line make together. -/
def generateWith (fs : FileAccess m) (folder : String) (named : Option String) (overrides : Overrides) :
    m (Outcome Summary) := do
  match (← config fs folder named).bind (settings · overrides) with
  | .error failure => return (.error failure, [])
  | .ok s => generate fs s

def run (fs : FileAccess m) (folder : String) (arguments : List String) : m (Ending × List Warning) := do
  match parse? arguments with
  | none => return (.misused, [])
  | some .help => return (.done usage, [])
  | some .version => return (.done (programName ++ " " ++ programVersion ++ "\n"), [])
  | some (.check input) => return Ending.of Report.text (← check fs input)
  | some (.generate named overrides) => return Ending.of Summary.text (← generateWith fs folder named overrides)

end ApiValidators.Command
