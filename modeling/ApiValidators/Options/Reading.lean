import ApiValidators.Document.Reading
import ApiValidators.Json.Text
import ApiValidators.Options

/-!
# Options as JSON

Options are read from JSON text, in which everything may be left out, and written as a JSON object with all four keys.
-/

namespace ApiValidators

/-- A nullable mode: its name, or a map from its name to null. -/
def NullableMode.reader (src : Source) (t : Tree) : Reader NullableMode := do
  match ← src.follow t with
  | .leaf l => (l.text.bind ofName?).elim failure pure
  | .map _ [(k, .leaf l)] =>
    let name ← src.text k
    if l.content matches some .null then (ofName? name).elim failure pure else failure
  | _ => failure

namespace Options

/-- The names of the options, in the order in which a list gives them. -/
def fields : List String := ["generateComponents", "generatePaths", "generateQueries", "nullableMode"]

def flag (src : Source) : Tree → Reader Bool := src.viaContent 1 Content.asBool?

def reader (src : Source) (t : Tree) : Reader Options := do
  let given ← src.record fields t
  let components ← Source.field given "generateComponents" true (flag src)
  let paths ← Source.field given "generatePaths" true (flag src)
  let queries ← Source.field given "generateQueries" true (flag src)
  let mode ← Source.field given "nullableMode" .nullish (NullableMode.reader src)
  pure { components, paths, queries, mode }

/-- `from_json`: the options in a JSON text; no text at all gives the default ones. -/
def ofJsonText? (input : Json.Input) : Option Options :=
  if input.isEmpty then some {} else (Json.source? input).bind fun src => src.read (reader src)

def toJson (o : Options) : Json :=
  .object [("generateComponents", .bool o.components), ("generatePaths", .bool o.paths),
    ("generateQueries", .bool o.queries), ("nullableMode", .string o.mode.name)]

end Options

end ApiValidators
