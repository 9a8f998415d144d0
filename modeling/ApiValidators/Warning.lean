import ApiValidators.Schema.Basic

/-!
# Reference errors and warnings

A missing or cyclic reference ends a run (`ReferenceError`); everything else that is worth saying is a `Warning`, listed
in the order in which it comes up.
-/

namespace ApiValidators

/-- Why references cannot be replaced by what they name (`CompileError`). -/
inductive ReferenceError where
  /-- The pointer names no declared schema. -/
  | notFound (pointer : String)
  /-- The names lead from the first one back to it. -/
  | cyclic (chain : List String)
  deriving Repr, DecidableEq

namespace ReferenceError

def message : ReferenceError → String
  | notFound pointer => "schema for reference " ++ pointer ++ " not found"
  | cyclic chain => "cyclic reference: " ++ " -> ".intercalate chain

def kind : ReferenceError → String
  | notFound _ => "schema_not_found"
  | cyclic _ => "cyclic_reference"

end ReferenceError

/-- Something worth saying that does not end a run, or the note that a run has ended. -/
inductive Warning where
  /-- A name was taken from a pointer that does not start where named schemas live. -/
  | unusualPointer (pointer : String)
  | unsupportedFormat (format : String)
  /-- A parameter given by reference was left out. -/
  | referenceParameter (path method reference : String)
  /-- An identifier was taken and got a number. -/
  | renamed (identifier newName : String)
  /-- References of the document at a path cannot be resolved. -/
  | compilationFailed (input : String) (error : ReferenceError)
  deriving Repr, DecidableEq

inductive Severity where
  | warn
  | error
  deriving Repr, DecidableEq

namespace Warning

def severity : Warning → Severity
  | compilationFailed .. => .error
  | _ => .warn

def message : Warning → String
  | unusualPointer _ => "$ref does not start with the expected path `" ++ Pointer.home ++ "`"
  | unsupportedFormat _ => "unsupported format; expression left unmodified"
  | referenceParameter .. => "reference parameters are not supported; skipping"
  | renamed .. => "identifier already used in this batch; renaming"
  | compilationFailed .. => "compilation failed"

def fields : Warning → List (String × String)
  | unusualPointer pointer => [("pointer", pointer)]
  | unsupportedFormat format => [("format", format)]
  | referenceParameter path method reference => [("path", path), ("method", method), ("reference", reference)]
  | renamed identifier newName => [("identifier", identifier), ("renamed", newName)]
  | compilationFailed input error => [("input", input), ("kind", error.kind), ("error", error.message)]

/-- The warning that comes with taking a name from a pointer, if any. -/
def ofPointer (pointer : String) : List Warning := if Pointer.isHome pointer then [] else [unusualPointer pointer]

end Warning

end ApiValidators
