import ApiValidators.Command.Program

/-!
# The program in its surroundings

The real files, the real arguments, and what is printed where. All that is decided is decided by `Command.run`.
-/

namespace ApiValidators.Main

def fileError : IO.Error → FileError
  | .noFileOrDirectory .. => .notFound
  | .alreadyExists .. => .exists
  | .inappropriateType _ code _ => if code == 20 then .notFolder else .isFolder
  | e => .other (toString e)

def attempt {α : Type} (path : String) (action : IO α) : IO (Except FileError α) := do
  if path.contains (Char.ofNat 0) then return .error .badName
  else
    try return .ok (← action)
    catch e => return .error (fileError e)

def files : FileAccess IO where
  read path := attempt path do return (← IO.FS.readBinFile path).data.toList
  isFile path := do return (← attempt path (IO.FS.readBinFile path)).isOk
  makeFolders path := attempt path (IO.FS.createDirAll path)
  write path bytes := attempt path (IO.FS.writeBinFile path ⟨bytes.toArray⟩)

def warningLine (w : Warning) : String :=
  let level := match w.severity with
    | .warn => "WARN "
    | .error => "ERROR "
  level ++ w.message ++ String.join (w.fields.map fun (name, value) => " " ++ name ++ "=" ++ value)

/-- A failure as it is printed: what was tried, and below it why that went wrong. -/
def failureText (f : Failure) : String :=
  let reasons := f.chain.drop 1
  "Error: " ++ f.message ++
    if reasons.isEmpty then "" else "\n\nCaused by:" ++ String.join (reasons.map fun reason => "\n    " ++ reason)

def run (arguments : List String) : IO UInt32 := do
  let (ending, warnings) ← Command.run files "." arguments
  for w in warnings do IO.eprintln (warningLine w)
  match ending with
  | .done output => IO.print output
  | .failed failure => IO.eprintln (failureText failure)
  | .misused => IO.eprint Command.usage
  return UInt32.ofNat ending.code

end ApiValidators.Main

/-- The program. -/
def main (arguments : List String) : IO UInt32 := ApiValidators.Main.run arguments
