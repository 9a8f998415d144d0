import ApiValidators.Document.Basic

/-!
# Validation

What makes a document unusable although it can be read. `Document.problems` lists every violation, in the order in which
the document is visited: version first, then path by path, and within a path the operations before what they share.
-/

namespace ApiValidators

/-- A reason why a document is not used. -/
inductive Problem where
  | missingVersion
  | unsupportedVersion (version : String)
  | unrootedPath (path : String)
  /-- An operation id that an earlier operation has; operations are named by method and path. -/
  | repeatedId (id : String) (operation first : String)
  | unnamedParameter (owner : String)
  | optionalPathParameter (name owner : String)
  deriving Repr, DecidableEq

namespace Problem

def message : Problem → String
  | missingVersion => "missing `openapi` version field"
  | unsupportedVersion version => "unsupported OpenAPI version '" ++ version ++ "', expected 3.x"
  | unrootedPath path => "path '" ++ path ++ "' must start with '/'"
  | repeatedId id operation first => "operationId '" ++ id ++ "' of " ++ operation ++ " is already used by " ++ first
  | unnamedParameter owner => owner ++ " has a parameter without a name"
  | optionalPathParameter name owner => "path parameter '" ++ name ++ "' of " ++ owner ++ " must be required"

def summary (problems : List Problem) : String :=
  "invalid document:\n  - " ++ "\n  - ".intercalate (problems.map message)

/-- The problem with a version, if any: only versions that start with `3.` are supported. -/
def ofVersion : Option String → List Problem
  | none => [missingVersion]
  | some version => if ['3', '.'].isPrefixOf version.toList then [] else [unsupportedVersion version]

def ofPath (path : String) : List Problem := if path.toList.head? = some '/' then [] else [unrootedPath path]

/-- The problem with an entry of a list of parameters, if any (`check_parameters`). -/
def ofEntry (owner : String) : ParameterEntry → List Problem
  | .reference _ => []
  | .inline p =>
    if p.name = "" then [unnamedParameter owner]
    else if p.location = .path ∧ p.required = false then [optionalPathParameter p.name owner]
    else []

/-- The problem with an operation's id, if any, given the ids used before it and the operations that used them first. -/
def ofId (used : List (String × String)) (operation : String) : Option String → List Problem
  | none => []
  | some id =>
    match Entries.get? id used with
    | none => []
    | some first => [repeatedId id operation first]

end Problem

/-- What an operation is called in problems. -/
def Method.locate (method : Method) (path : String) : String := method.name ++ " " ++ path

/-- The operation ids used so far, after one more operation; the first use of an id counts. -/
def noteId (used : List (String × String)) (operation : String) : Option String → List (String × String)
  | none => used
  | some id => if (Entries.get? id used).isSome then used else used ++ [(id, operation)]

/-- The problems of operations of a path, and the ids used after them. -/
def problemsOfOperations (path : String) (used : List (String × String)) :
    List (Method × Operation) → List Problem × List (String × String)
  | [] => ([], used)
  | (method, o) :: rest =>
    let operation := method.locate path
    let (later, after) := problemsOfOperations path (noteId used operation o.operationId) rest
    (Problem.ofId used operation o.operationId ++ o.parameters.flatMap (Problem.ofEntry operation) ++ later, after)

def problemsOfPaths (used : List (String × String)) : List (String × PathItem) → List Problem
  | [] => []
  | (path, item) :: rest =>
    let (ofOperations, after) := problemsOfOperations path used item.operations
    Problem.ofPath path ++ ofOperations ++ item.parameters.flatMap (Problem.ofEntry path) ++ problemsOfPaths after rest

/-- `validate`: everything that makes a document unusable. -/
def Document.problems (d : Document) : List Problem := Problem.ofVersion d.openapi ++ problemsOfPaths [] d.paths.entries

end ApiValidators
