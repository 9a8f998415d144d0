import ApiValidators.Warning

/-!
# Documents

The parts of an API document that validators are generated from: named schemas, and the parameters of operations.
An operation has the parameters that its path shares and its own, where an own one takes the place of the shared one of
the same name and location; of these the ones given in place and with a schema count.
-/

namespace ApiValidators

inductive Method where
  | get
  | put
  | post
  | delete
  | options
  | head
  | patch
  | trace
  deriving Repr, DecidableEq

namespace Method

/-- The methods in the order in which operations are visited. -/
def all : List Method := [get, put, post, delete, options, head, patch, trace]

def name : Method → String
  | get => "get"
  | put => "put"
  | post => "post"
  | delete => "delete"
  | options => "options"
  | head => "head"
  | patch => "patch"
  | trace => "trace"

end Method

/-- One value per method. -/
structure ByMethod (α : Type) where
  get : α
  put : α
  post : α
  delete : α
  options : α
  head : α
  patch : α
  trace : α
  deriving Repr, DecidableEq

namespace ByMethod

def of {α : Type} (values : ByMethod α) : Method → α
  | .get => values.get
  | .put => values.put
  | .post => values.post
  | .delete => values.delete
  | .options => values.options
  | .head => values.head
  | .patch => values.patch
  | .trace => values.trace

/-- The values a function has at the methods. -/
def build {α : Type} (f : Method → α) : ByMethod α :=
  ⟨f .get, f .put, f .post, f .delete, f .options, f .head, f .patch, f .trace⟩

/-- Changes the values in the order in which operations are visited. -/
def mapM {α β : Type} {m : Type → Type} [Monad m] (f : α → m β) (values : ByMethod α) : m (ByMethod β) := do
  let get ← f values.get
  let put ← f values.put
  let post ← f values.post
  let delete ← f values.delete
  let options ← f values.options
  let head ← f values.head
  let patch ← f values.patch
  let trace ← f values.trace
  pure ⟨get, put, post, delete, options, head, patch, trace⟩

@[simp] theorem of_build {α : Type} (f : Method → α) (method : Method) : (build f).of method = f method := by
  cases method <;> rfl

end ByMethod

/-- Where a parameter is carried (`ParameterLocation`). -/
inductive Location where
  | path
  | query
  | header
  | cookie
  deriving Repr, DecidableEq

namespace Location

def all : List Location := [path, query, header, cookie]

def name : Location → String
  | path => "path"
  | query => "query"
  | header => "header"
  | cookie => "cookie"

def ofName? (name : String) : Option Location := all.find? (·.name == name)

end Location

structure Parameter where
  name : String
  location : Location
  required : Bool := false
  schema : Option Schema := none
  description : Option String := none
  deriving Repr, DecidableEq

/-- An entry of a list of parameters: one given by reference, which is left out of what is generated, or one given in
place. -/
inductive ParameterEntry where
  | reference (pointer : String)
  | inline (parameter : Parameter)
  deriving Repr, DecidableEq

structure Operation where
  operationId : Option String := none
  parameters : List ParameterEntry := []
  deriving Repr, DecidableEq

/-- The operations of one path, and the parameters that all of them share. -/
structure PathItem where
  operation : ByMethod (Option Operation)
  parameters : List ParameterEntry := []
  deriving Repr, DecidableEq

/-- The operations of a path, in the order of `Method.all`. -/
def PathItem.operations (item : PathItem) : List (Method × Operation) :=
  Method.all.filterMap fun method => (item.operation.of method).map (method, ·)

structure Document where
  /-- The version of the document format. -/
  openapi : Option String := none
  /-- The named schemas; `none` when the document has no place for them. -/
  schemas : Option (Named Schema) := none
  paths : Named PathItem := Named.empty
  deriving DecidableEq

/-- The named schemas; none where the document has no place for them. -/
def Document.declared (d : Document) : List (String × Schema) := (d.schemas.map Named.entries).getD []

/-! ## Parameters of an operation -/

/-- Whether an entry is a parameter given in place that has the name and location of another. -/
def ParameterEntry.clashes (own : Parameter) : ParameterEntry → Bool
  | reference _ => false
  | inline p => p.name == own.name && p.location == own.location

/-- The entries with the first one of the name and location of an own parameter replaced by that, or the own one added
at the end. A reference is always added. -/
def ParameterEntry.override (entry : ParameterEntry) (entries : List ParameterEntry) : List ParameterEntry :=
  match entry with
  | reference _ => entries ++ [entry]
  | inline own =>
    if entries.any (clashes own) then replaceFirst own entries else entries ++ [entry]
where
  /-- The entries with the first clashing one replaced. -/
  replaceFirst (own : Parameter) : List ParameterEntry → List ParameterEntry
    | [] => []
    | e :: es => if e.clashes own then inline own :: es else e :: replaceFirst own es

/-- `effective_parameters`: shared and own entries together. -/
def PathItem.entriesOf (item : PathItem) (operation : Operation) : List ParameterEntry :=
  operation.parameters.foldl (fun entries own => own.override entries) item.parameters

/-- `inline_parameters`: the parameters that count, given in place and with a schema. -/
def ParameterEntry.usable : ParameterEntry → Option (Parameter × Schema)
  | reference _ => none
  | inline p => p.schema.map (p, ·)

/-- The warnings about entries given by reference. -/
def ParameterEntry.warnings (path : String) (method : Method) : ParameterEntry → List Warning
  | reference pointer => [.referenceParameter path method.name pointer]
  | inline _ => []

/-- The schema with a description in place of a missing one. References take none. -/
def Schema.describedBy (description : Option String) : Schema → Schema
  | reference pointer => reference pointer
  | inline b => inline { b with description := b.description.or description }

/-- `parameter_schema`: the object whose properties are the given parameters. Of two with one name the later one gives
the schema. -/
def Parameter.object (parameters : List (Parameter × Schema)) : Body Schema where
  type := some (.one "object")
  properties := Entries.collect (parameters.map fun (p, s) => (p.name, s.describedBy p.description))
  required := (parameters.filter fun (p, _) => p.required).map fun (p, _) => p.name

end ApiValidators
