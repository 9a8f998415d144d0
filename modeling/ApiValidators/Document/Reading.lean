import ApiValidators.Document.Basic
import ApiValidators.Schema.Reading
import ApiValidators.Source.Tree

/-!
# Reading documents

The outer parts of a document are records and maps with a fixed place for everything, read straight from the tree; what
has no place is passed over unseen. Parameters and schemas are turned into content first, as their form is not known
beforehand.
-/

namespace ApiValidators

namespace Source

variable (src : Source)

def text (t : Tree) : Reader String := do
  match ← src.follow t with
  | .leaf l => l.text.elim failure pure
  | _ => failure

def optional {α : Type} (f : Tree → Reader α) (t : Tree) : Reader (Option α) := do
  match ← src.follow t with
  | .leaf l =>
    match l.absent with
    | some true => pure none
    | some false => some <$> f (.leaf l)
    | none => failure
  | t => some <$> f t

/-- The fields of a record with the given names: by name in a map, each at most once, or, where the
notation allows that, by position in a list. -/
def record (names : List String) (t : Tree) : Reader (List (String × Tree)) := do
  match ← src.follow t with
  | .map _ members =>
    let fields ← members.mapM fun (k, v) => do return (← src.text k, v)
    let fields := fields.filter fun (name, _) => names.contains name
    if (Entries.names fields).Nodup then pure fields else failure
  | .list _ items => if src.positional && items.length ≤ names.length then pure (names.zip items) else failure
  | .leaf l => if l.blank then pure [] else failure
  | .aliasOf _ => failure

def entries {α : Type} (f : Tree → Reader α) (t : Tree) : Reader (List (String × α)) := do
  match ← src.follow t with
  | .map _ members => members.mapM fun (k, v) => do return (← src.text k, ← f v)
  | .leaf l => if l.blank then pure [] else failure
  | _ => failure

def each {α : Type} (f : Tree → Reader α) (t : Tree) : Reader (List α) := do
  match ← src.follow t with
  | .list _ items => items.mapM f
  | .leaf l => if l.blank then pure [] else failure
  | _ => failure

/-- A value read from its content; `above` is the number of collections around it. -/
def viaContent {α : Type} (above : Nat) (f : Content → Option α) (t : Tree) : Reader α := do
  (f (← src.content (src.levels - above) t)).elim failure pure

/-- A field of a record, or what stands for it when it is missing. -/
def field {α : Type} (fields : List (String × Tree)) (name : String) (missing : α) (f : Tree → Reader α) : Reader α :=
  match Entries.get? name fields with
  | none => pure missing
  | some t => f t

end Source

/-! ## Parameters -/

/-- A location: its name, or a map from its name or position to null. -/
def Location.ofContent? : Content → Option Location
  | .text s => ofName? s
  | .map [(.text s, .null)] => ofName? s
  | .map [(.unsigned n, .null)] => all[n]?
  | _ => none

namespace Parameter

/-- The fields of a parameter, in the order in which a list gives them. -/
def fields : List String := ["name", "in", "required", "schema", "description"]

def ofFields? (fields : List (String × Content)) : Option Parameter := do
  let name ← (← Entries.get? "name" fields).asText?
  let location ← Location.ofContent? (← Entries.get? "in" fields)
  let required ← match Entries.get? "required" fields with
    | none => some false
    | some c => c.asBool?
  let schema ← match Entries.get? "schema" fields with
    | none => some none
    | some c => c.asOption? Schema.ofContent?
  let description ← match Entries.get? "description" fields with
    | none => some none
    | some c => c.asOption? Content.asText?
  pure { name, location, required, schema, description }

def ofContent? : Content → Option Parameter
  | .map members => (Content.fieldsOf? fields members).bind ofFields?
  | .list items => (Content.fieldsAt? fields items).bind ofFields?
  | _ => none

end Parameter

/-- The pointer of content that is read as a reference. -/
def Reading.pointerOf? (c : Content) : Option String :=
  let fields := match c with
    | .map members => Content.fieldsOf? referenceFields members
    | .list items => Content.fieldsAt? referenceFields items
    | _ => none
  fields.bind fun fs => (Entries.get? "$ref" fs).bind Content.asText?

/-- An entry of a list of parameters. A reference is one, whatever else it holds. -/
def ParameterEntry.ofContent? (c : Content) : Option ParameterEntry :=
  match Reading.pointerOf? c with
  | some pointer => some (.reference pointer)
  | none => (Parameter.ofContent? c).map .inline

/-! ## Documents -/

namespace Document

variable (src : Source)

def readOperation (t : Tree) : Reader Operation := do
  let fields ← src.record ["operationId", "parameters"] t
  let operationId ← Source.field fields "operationId" none (src.optional src.text)
  let parameters ← Source.field fields "parameters" [] (src.each (src.viaContent 5 ParameterEntry.ofContent?))
  pure { operationId, parameters }

def readPathItem (t : Tree) : Reader PathItem := do
  let fields ← src.record (Method.all.map Method.name ++ ["parameters"]) t
  let operation ← (ByMethod.build Method.name).mapM fun name =>
    Source.field fields name none (src.optional (readOperation src))
  let parameters ← Source.field fields "parameters" [] (src.each (src.viaContent 4 ParameterEntry.ofContent?))
  pure { operation, parameters }

def readComponents (t : Tree) : Reader (Named Schema) := do
  let fields ← src.record ["schemas"] t
  let schemas ← Source.field fields "schemas" [] (src.entries (src.viaContent 3 Schema.ofContent?))
  pure (Named.ofList schemas)

def reader (t : Tree) : Reader Document := do
  let fields ← src.record ["openapi", "components", "paths"] t
  let openapi ← Source.field fields "openapi" none (src.optional src.text)
  let schemas ← Source.field fields "components" none (src.optional (readComponents src))
  let paths ← Source.field fields "paths" [] (src.entries (readPathItem src))
  pure { openapi, schemas, paths := Named.ofList paths }

def ofSource? : Option Document := src.read (reader src)

end Document

end ApiValidators
