import ApiValidators.Document.Loading
import ApiValidators.Document.Resolver
import ApiValidators.Module.Assembly
import ApiValidators.Module.Printer
import ApiValidators.Settings

/-!
# Commands

`check` looks whether a document can be used; `generate` writes the module of a document. Both work on any file system,
and nothing is written before a document has been loaded and compiled. A failure is told as a chain of messages, the
first one saying what was tried and each other one why that went wrong.
-/

namespace ApiValidators

/-- Why a command ends early. -/
inductive Failure where
  | unreadableConfig (path : String) (reason : FileError)
  | malformedConfig
  | missingPath (what : MissingPath)
  | notLoaded (input : String) (reason : LoadError)
  | unresolvable (input : String) (reason : ReferenceError)
  | notCompiled (input : String) (reason : ReferenceError)
  | folderNotMade (path : String) (reason : FileError)
  | notWritten (path : String) (reason : FileError)
  deriving Repr, DecidableEq

namespace Failure

/-- The messages, from what was tried to its deepest reason. -/
def chain : Failure → List String
  | unreadableConfig path reason =>
    ["Failed to read config: " ++ String.ofList (Text.shown path.toList), reason.message]
  | malformedConfig => ["Failed to parse config"]
  | missingPath what => [what.message]
  | notLoaded input reason => ("Failed to load " ++ input) :: reason.chain
  | unresolvable input reason => ["Unresolvable references in " ++ input, reason.message]
  | notCompiled input reason => ["Failed to compile " ++ input, reason.message]
  | folderNotMade path reason => ["Failed to create directory " ++ path, reason.message]
  | notWritten path reason => ["Failed to write " ++ path, reason.message]

def message (f : Failure) : String := f.chain.headD ""

end Failure

end ApiValidators

namespace ApiValidators.Command

variable {m : Type → Type} [Monad m]

/-- What a command makes of its input, and the warnings on the way. -/
abbrev Outcome (α : Type) := Except Failure α × List Warning

/-! ## Configuration -/

/-- The configuration in a file that was read. -/
def configOf (path : String) (bytes : Except FileError (List UInt8)) : Except Failure Config :=
  match bytes with
  | .error reason => .error (.unreadableConfig path reason)
  | .ok bytes =>
    match Text.ofUtf8? bytes with
    | none => .error (.unreadableConfig path .notText)
    | some text =>
      match Config.ofText? text with
      | none => .error .malformedConfig
      | some config => .ok config

/-- `discover`: the configuration in the file that is named, or else in the usual file of a folder, if it is there. -/
def config (fs : FileAccess m) (folder : String) : (named : Option String) → m (Except Failure Config)
  | some path => return configOf path (← fs.read path)
  | none => do
    let path := folder ++ "/" ++ Config.fileName
    if ← fs.isFile path then return configOf path (← fs.read path) else return .ok {}

def settings (config : Config) (overrides : Overrides) : Except Failure Settings :=
  match Settings.resolve config overrides with
  | .error what => .error (.missingPath what)
  | .ok settings => .ok settings

/-! ## Checking -/

/-- What a document holds. -/
structure Report where
  openapi : String
  schemas : Nat
  paths : Nat
  operations : Nat
  deriving Repr, DecidableEq

def Report.of (d : Document) : Report where
  openapi := d.openapi.getD ""
  schemas := d.declared.length
  paths := d.paths.size
  operations := (d.paths.values.flatMap PathItem.operations).length

/-- `report`, if the document of a file that was read can be used. -/
def report (input : String) (bytes : Except FileError (List UInt8)) : Outcome Report :=
  match Document.ofFile input bytes with
  | .error reason => (.error (.notLoaded input reason), [])
  | .ok d =>
    match d.resolve with
    | (.error reason, warnings) => (.error (.unresolvable input reason), warnings ++ [.compilationFailed input reason])
    | (.ok _, warnings) => (.ok (.of d), warnings)

/-- `check`: looks whether a document can be used. -/
def check (fs : FileAccess m) (input : String) : m (Outcome Report) := return report input (← fs.read input)

/-! ## Generating -/

/-- What was written. -/
structure Summary where
  output : String
  statements : Nat
  bytes : Nat
  deriving Repr, DecidableEq

/-- The text of the module of a file that was read, and the number of its statements. -/
def compile (s : Settings) (bytes : Except FileError (List UInt8)) : Outcome (List Char × Nat) :=
  match Document.ofFile s.input bytes with
  | .error reason => (.error (.notLoaded s.input reason), [])
  | .ok d =>
    match d.generate s.options with
    | (.error reason, warnings) =>
      (.error (.notCompiled s.input reason), warnings ++ [.compilationFailed s.input reason])
    | (.ok statements, warnings) => (.ok (Module.text s.banners statements, statements.length), warnings)

/-- `write_output`: writes a file, after making the folders above it that are missing. -/
def write (fs : FileAccess m) (path : String) (bytes : List UInt8) : m (Except Failure Unit) := do
  let folder := String.ofList ((Path.parent? path.toList).getD [])
  let made ← if folder.isEmpty then pure (.ok ()) else fs.makeFolders folder
  match made with
  | .error reason => return .error (.folderNotMade folder reason)
  | .ok () =>
    match ← fs.write path bytes with
    | .error reason => return .error (.notWritten path reason)
    | .ok () => return .ok ()

/-- `run`: writes the module of a document. -/
def generate (fs : FileAccess m) (s : Settings) : m (Outcome Summary) := do
  match compile s (← fs.read s.input) with
  | (.error failure, warnings) => return (.error failure, warnings)
  | (.ok (text, statements), warnings) =>
    let bytes := Text.toUtf8 text
    match ← write fs s.output bytes with
    | .error failure => return (.error failure, warnings)
    | .ok () => return (.ok { output := s.output, statements, bytes := bytes.length }, warnings)

end ApiValidators.Command
