import ApiValidators.Document.Reading
import ApiValidators.Document.Validation
import ApiValidators.Files.Access
import ApiValidators.Json.Text
import ApiValidators.Text.Characters
import ApiValidators.Text.Utf8
import ApiValidators.Yaml.Grammar

/-!
# Loading documents

A document file is JSON or YAML: its name tells which, or else its text. What is read is then validated, so a document
that is loaded has no `Problem`.
-/

namespace ApiValidators

inductive FileFormat where
  | json
  | yaml
  deriving Repr, DecidableEq

namespace FileFormat

def name : FileFormat → String
  | json => "json"
  | yaml => "yaml"

/-- The format that the extension of a name stands for. Case does not matter. -/
def ofExtension? (extension : List Char) : Option FileFormat :=
  let lower := String.ofList (extension.map Char.toLower)
  if lower == "json" then some json else if lower == "yaml" || lower == "yml" then some yaml else none

/-- The format of a text whose name does not tell. -/
def ofText (text : List Char) : FileFormat := if (Text.trimStart text).head? = some '\x7b' then json else yaml

/-- `detect`: the format of a file. -/
def detect (path text : List Char) : FileFormat := ((Path.extension? path).bind ofExtension?).getD (ofText text)

def source? (text : List Char) : FileFormat → Option Source
  | json => Json.source? (text.map some)
  | yaml => Yaml.source? text

end FileFormat

/-- Why a document cannot be used. -/
inductive LoadError where
  /-- The file cannot be read. -/
  | unreadable (path : String) (reason : FileError)
  /-- The text is not written in its format, or does not fit a document. -/
  | malformed (format : FileFormat)
  | invalid (problems : List Problem)
  deriving Repr, DecidableEq

namespace LoadError

/-- The texts that say what went wrong, each the reason of the one before it. A malformed text is not explained. -/
def chain : LoadError → List String
  | unreadable path reason => ["failed to read " ++ path ++ ": " ++ reason.message, reason.message]
  | malformed _ => []
  | invalid problems => [Problem.summary problems]

end LoadError

namespace Document

/-- `from_str`: the document of a text. -/
def ofText (text : List Char) (format : FileFormat) : Except LoadError Document :=
  match (format.source? text).bind ofSource? with
  | none => .error (.malformed format)
  | some d => if d.problems.isEmpty then .ok d else .error (.invalid d.problems)

/-- `load`: the document of a file that was read. -/
def ofFile (path : String) (bytes : Except FileError (List UInt8)) : Except LoadError Document :=
  match bytes with
  | .error reason => .error (.unreadable path reason)
  | .ok bytes =>
    match Text.ofUtf8? bytes with
    | none => .error (.unreadable path .notText)
    | some text => ofText text (.detect path.toList text)

end Document

end ApiValidators
