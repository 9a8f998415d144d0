import ApiValidators.Document.Basic
import ApiValidators.Document.Resolver
import ApiValidators.Module.Statement
import ApiValidators.Naming.Basic
import ApiValidators.Validator.Builder

/-!
# Assembling a module

From a document to the list of its statements (`Document.generate`): one per named schema, then one per operation with
path parameters, then one per operation with query parameters. References are resolved first; if that fails there is no
statement at all. All sections take their names from one set of claimed names.
-/

namespace ApiValidators

/-- A statement that has not got its final name yet, and what building it warns about. -/
structure Draft where
  identifier : String
  expression : Expr
  comment : Option String := none
  warnings : List Warning := []
  deriving Repr

/-- The draft of a named schema. -/
def Draft.component (mode : NullableMode) (name : String) (s : Schema) : Draft where
  identifier := Naming.exportName Section.components.kind name
  expression := s.build mode true
  comment := s.description.bind Remark.comment
  warnings := s.buildWarnings

/-- `component_statements`: the drafts of the named schemas, in their order. -/
def Document.componentDrafts (mode : NullableMode) (d : Document) : List Draft :=
  d.declared.map fun (name, s) => .component mode name s

/-- `operation_name`: the id of an operation, unless that is blank, else its method and path. -/
def Operation.sourceName (o : Operation) (method : Method) (path : String) : String :=
  match o.operationId with
  | some id =>
    if (Text.trim id.toList).isEmpty then fallback else id
  | none => fallback
where
  /-- Method and path in letters, digits and underscores. -/
  fallback : String := String.ofList (Naming.underscored (method.name.toList ++ ' ' :: path.toList))

/-- The draft for the parameters of an operation at one location; none where it has none. -/
def Operation.draft? (mode : NullableMode) (part : Section) (location : Location) (name : String)
    (parameters : List (Parameter × Schema)) : Option Draft :=
  let located := parameters.filter fun (p, _) => p.location == location
  if located.isEmpty then none
  else
    let object := Schema.inline (Parameter.object located)
    some {
      identifier := Naming.exportName part.kind name
      expression := object.build mode true
      warnings := object.buildWarnings }

/-- What one operation contributes: its path draft, its query draft, and all warnings about it. -/
structure OperationDrafts where
  path : Option Draft
  query : Option Draft
  warnings : List Warning

/-- `operation_statements` for one operation. -/
def PathItem.operationDrafts (mode : NullableMode) (path : String) (item : PathItem) (method : Method)
    (o : Operation) : OperationDrafts :=
  let entries := item.entriesOf o
  let parameters := entries.filterMap ParameterEntry.usable
  let name := o.sourceName method path
  let inPath := Operation.draft? mode .paths .path name parameters
  let inQuery := Operation.draft? mode .queries .query name parameters
  let built := inPath.toList ++ inQuery.toList
  ⟨inPath, inQuery, entries.flatMap (ParameterEntry.warnings path method) ++ built.flatMap Draft.warnings⟩

/-- The drafts of all operations, by path and then by method. -/
def Document.operationDrafts (mode : NullableMode) (d : Document) : List OperationDrafts :=
  d.paths.entries.flatMap fun (path, item) =>
    item.operations.map fun (method, o) => item.operationDrafts mode path method o

/-- `push_section`: the statements of a section, given the names claimed before it, last one first. -/
def Section.statements (part : Section) (taken : List String) (drafts : List Draft) : List Statement :=
  let claims := Naming.claimAll taken (drafts.map Draft.identifier)
  (List.zip drafts claims).zipIdx.map fun ((draft, claim), i) =>
    ⟨claim.name, draft.expression, draft.comment, if i = 0 then some part else none⟩

/-- The warnings about drafts of a section that get another name, given the names claimed before it. -/
def Section.renamings (taken : List String) (drafts : List Draft) : List Warning :=
  (List.zip drafts (Naming.claimAll taken (drafts.map Draft.identifier))).filterMap fun (draft, claim) =>
    if claim.renamed then some (.renamed draft.identifier claim.name) else none

/-- The names of statements, last one first. -/
def Statement.names (statements : List Statement) : List String := (statements.map Statement.identifier).reverse

/-- The statements of a document without references, and the warnings of building them. -/
def Document.assemble (options : Options) (d : Document) : List Statement × List Warning :=
  let components := if options.components then d.componentDrafts options.mode else []
  let operations := if options.paths || options.queries then d.operationDrafts options.mode else []
  let paths := if options.paths then operations.filterMap OperationDrafts.path else []
  let queries := if options.queries then operations.filterMap OperationDrafts.query else []
  let first := Section.components.statements [] components
  let second := Section.paths.statements (Statement.names first) paths
  let third := Section.queries.statements (Statement.names (first ++ second)) queries
  (first ++ second ++ third,
    components.flatMap Draft.warnings ++ Section.renamings [] components ++
      operations.flatMap OperationDrafts.warnings ++ Section.renamings (Statement.names first) paths ++
      Section.renamings (Statement.names (first ++ second)) queries)

/-- `generate`: the statements of a document, or the first reference error, and the warnings on the way. -/
def Document.generate (options : Options) (d : Document) : Except ReferenceError (List Statement) × List Warning :=
  match d.resolve with
  | (.error e, warnings) => (.error e, warnings)
  | (.ok flat, warnings) =>
    let (statements, more) := flat.assemble options
    (.ok statements, warnings ++ more)

end ApiValidators
