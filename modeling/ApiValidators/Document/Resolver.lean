import ApiValidators.Document.Basic
import ApiValidators.Schema.Basic
import ApiValidators.Warning

/-!
# Resolving references

References are replaced by the flattened schemas they name. Each named schema is flattened once and remembered; the
names whose schemas are being flattened form a stack, and meeting one of them again is an error. As a name on the stack
is declared and stands there once, the stack cannot grow beyond the number of declared names (`room_cons_lt`).
-/

namespace ApiValidators

/-- What a `Resolver` knows: the named schemas flattened so far, and the warnings in order. -/
structure Progress where
  flattened : List (String × Body Schema) := []
  warnings : List Warning := []
  deriving Repr

/-- A step of resolving. What it has learnt stays known when it fails. -/
abbrev Resolution := ExceptT ReferenceError (StateM Progress)

namespace Resolution

def warn (more : List Warning) : Resolution Unit := modify fun p => { p with warnings := p.warnings ++ more }

def remember (name : String) (body : Body Schema) : Resolution Unit :=
  modify fun p => { p with flattened := (name, body) :: p.flattened }

end Resolution

namespace Resolver

/-- Number of declared schemas whose names are not on the stack. -/
def room (declared : List (String × Schema)) (stack : List String) : Nat :=
  (declared.filter fun e => !stack.contains e.1).length

theorem room_cons_lt {declared : List (String × Schema)} {stack : List String} {name : String} {s : Schema}
    (fresh : name ∉ stack) (h : Entries.get? name declared = some s) :
    room declared (name :: stack) < room declared stack := by
  have hm := Entries.mem_of_get? h
  unfold room
  have hsub : (declared.filter fun e => !(name :: stack).contains e.1) =
      (declared.filter fun e => !stack.contains e.1).filter fun e => e.1 != name := by
    rw [List.filter_filter]
    congr 1
    funext e
    by_cases he : e.1 = name <;> simp [he]
  rw [hsub]
  refine List.length_filter_lt_length_iff_exists.2 ⟨(name, s), ?_, by simp⟩
  simpa using ⟨hm, fresh⟩

/-- The names from the earlier visit of `name` to the present one. The stack lists the innermost name first. -/
def chain (stack : List String) (name : String) : List String :=
  name :: ((stack.takeWhile (· != name)).reverse ++ [name])

/-- `resolve_named`: the flattened schema of a name, which `pointer` led to, while those on the stack are being
flattened. -/
def named (declared : List (String × Schema)) (stack : List String) (name pointer : String) :
    Resolution (Body Schema) := do
  match Entries.get? name (← get).flattened with
  | some body => return body
  | none =>
    if _ : name ∈ stack then throw (.cyclic (chain stack name))
    else
      match _h : Entries.get? name declared with
      | none => throw (.notFound pointer)
      | some target =>
        let body ← target.flatten fun inner => do
          Resolution.warn (Warning.ofPointer inner)
          named declared (name :: stack) (Pointer.name inner) inner
        Resolution.remember name body
        return body
  termination_by room declared stack
  decreasing_by exact room_cons_lt ‹_› ‹_›

/-- The flattened schema a pointer leads to, while those on the stack are being flattened. -/
def follow (declared : List (String × Schema)) (stack : List String) (pointer : String) : Resolution (Body Schema) := do
  Resolution.warn (Warning.ofPointer pointer)
  named declared stack (Pointer.name pointer) pointer

/-- `resolve`: any schema, flattened. -/
def resolve (declared : List (String × Schema)) (s : Schema) : Resolution (Body Schema) :=
  s.flatten (follow declared [])

/-- `resolve_component`: a named schema, flattened as if a pointer led to it. -/
def component (declared : List (String × Schema)) (name : String) : Resolution (Body Schema) :=
  named declared [] name (Pointer.ofName name)

/-- An entry of a list of parameters with its schema flattened. -/
def entry (declared : List (String × Schema)) : ParameterEntry → Resolution ParameterEntry
  | .reference pointer => pure (.reference pointer)
  | .inline p =>
    match p.schema with
    | none => pure (.inline p)
    | some s => do
      let body ← resolve declared s
      pure (.inline { p with schema := some (.inline body) })

/-- An operation with the schemas of its parameters flattened. -/
def operation (declared : List (String × Schema)) : Option Operation → Resolution (Option Operation)
  | none => pure none
  | some o => do
    let parameters ← o.parameters.mapM (entry declared)
    pure (some { o with parameters })

/-- A path with all parameter schemas flattened, the shared ones first. -/
def pathItem (declared : List (String × Schema)) (item : PathItem) : Resolution PathItem := do
  let parameters ← item.parameters.mapM (entry declared)
  let operations ← item.operation.mapM (operation declared)
  pure { operation := operations, parameters }

/-- `resolve_document`: a document with every named schema and every parameter schema flattened. -/
def document (d : Document) : Resolution Document := do
  let schemas ← match d.schemas with
    | none => pure none
    | some named => do
      let bodies ← named.names.mapM (component d.declared)
      pure (some (named.withValues (bodies.map Schema.inline)))
  let items ← d.paths.values.mapM (pathItem d.declared)
  pure { d with schemas, paths := d.paths.withValues items }

end Resolver

/-- The document with every reference replaced by what it names, or the first error, and the warnings on the way. -/
def Document.resolve (d : Document) : Except ReferenceError Document × List Warning :=
  let (result, progress) := (Resolver.document d).run.run {}
  (result, progress.warnings)

end ApiValidators
