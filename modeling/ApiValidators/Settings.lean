import ApiValidators.Options
import ApiValidators.Toml.Text

/-!
# Settings

What one run is told: by a configuration file (`Config`) and by the command line (`Overrides`), which wins. The sections
form one choice: if the command line names any, only those it names are generated, else only those that the file turns
on, and all of them if neither says anything.

A configuration file has one table, `generate`. All of its keys are known, each has a value of its kind, and nothing
else is in the file.
-/

namespace ApiValidators

/-- What a configuration file says; anything may be left open. -/
structure Config where
  input : Option String := none
  output : Option String := none
  components : Option Bool := none
  paths : Option Bool := none
  queries : Option Bool := none
  mode : Option NullableMode := none
  banners : Option Bool := none
  deriving Repr, DecidableEq

namespace Config

/-- The file that is used if no other one is named. -/
def fileName : String := "zodgen.toml"

def selects (c : Config) : Bool := c.components.isSome || c.paths.isSome || c.queries.isSome

end Config

/-- What the command line says. -/
structure Overrides where
  input : Option String := none
  output : Option String := none
  components : Bool := false
  paths : Bool := false
  queries : Bool := false
  mode : Option NullableMode := none
  noBanners : Bool := false
  deriving Repr, DecidableEq

/-- `selects_sections`: whether the command line names any section. -/
def Overrides.selects (o : Overrides) : Bool := o.components || o.paths || o.queries

/-- What a run needs. -/
structure Settings where
  /-- The path of the document. -/
  input : String
  /-- The path of the module. -/
  output : String
  options : Options
  banners : Bool
  deriving Repr, DecidableEq

inductive MissingPath where
  | input
  | output
  deriving Repr, DecidableEq

def MissingPath.message : MissingPath → String
  | input => "No input document given (use --input or `input` in " ++ Config.fileName ++ ")"
  | output => "No output file given (use --output or `output` in " ++ Config.fileName ++ ")"

namespace Settings

/-- The sections that are generated, and how what is not required is marked. -/
def optionsOf (c : Config) (o : Overrides) : Options :=
  let mode := (o.mode.or c.mode).getD .nullish
  if o.selects then { components := o.components, paths := o.paths, queries := o.queries, mode }
  else if c.selects then
    { components := c.components.getD false, paths := c.paths.getD false, queries := c.queries.getD false, mode }
  else { mode }

/-- `resolve`: the settings that a configuration and a command line make together. -/
def resolve (c : Config) (o : Overrides) : Except MissingPath Settings := do
  let input ← ((o.input.or c.input).elim (.error .input) .ok : Except MissingPath String)
  let output ← ((o.output.or c.output).elim (.error .output) .ok : Except MissingPath String)
  return { input, output, options := optionsOf c o, banners := !o.noBanners && c.banners.getD true }

end Settings

/-! ## Reading configuration files -/

namespace Toml.Value

def asText? : Value → Option String
  | text s => some s
  | _ => none

def asBool? : Value → Option Bool
  | bool b => some b
  | _ => none

def isEmpty : Value → Bool
  | list [] | table _ [] => true
  | _ => false

end Toml.Value

/-- A nullable mode: its name, or a table with its name and nothing in it. -/
def NullableMode.ofToml? : Toml.Value → Option NullableMode
  | .text s => ofName? s
  | .table _ [(name, v)] => if v.isEmpty then ofName? name else none
  | _ => none

namespace Config

def add? (c : Config) : String × Toml.Value → Option Config
  | ("input", v) => v.asText?.map fun s => { c with input := some s }
  | ("output", v) => v.asText?.map fun s => { c with output := some s }
  | ("components", v) => v.asBool?.map fun b => { c with components := some b }
  | ("paths", v) => v.asBool?.map fun b => { c with paths := some b }
  | ("queries", v) => v.asBool?.map fun b => { c with queries := some b }
  | ("nullable-mode", v) => (NullableMode.ofToml? v).map fun m => { c with mode := some m }
  | ("banners", v) => v.asBool?.map fun b => { c with banners := some b }
  | _ => none

/-- The keys in the order in which a list gives their values. -/
def keys : List String := ["input", "output", "components", "paths", "queries", "nullable-mode", "banners"]

/-- The configuration of a value: a table, or a list with the values of all keys. -/
def ofValue? : Toml.Value → Option Config
  | .table _ ms => ms.foldlM add? {}
  | .list vs => if vs.length < keys.length then none else (keys.zip vs).foldlM add? {}
  | _ => none

/-- The configuration of a text, if it is one. -/
def ofText? (text : List Char) : Option Config := do
  match ← Toml.parse? text with
  | [] => some {}
  | [("generate", v)] => ofValue? v
  | _ => none

end Config

end ApiValidators
