import ApiValidators.Validator.Expr

/-!
# Statements

A module is a list of named, exported validators in up to three sections.
-/

namespace ApiValidators

/-- The sections of a module, in their order. -/
inductive Section where
  | components
  | paths
  | queries
  deriving Repr, DecidableEq

namespace Section

def title : Section → String
  | components => "COMPONENTS"
  | paths => "PATHS"
  | queries => "QUERIES"

/-- What the names of a section start with. -/
def kind : Section → String
  | components => "schema"
  | paths => "path"
  | queries => "query"

end Section

/-- A named, exported validator. -/
structure Statement where
  identifier : String
  expression : Expr
  /-- A comment for the line above. -/
  comment : Option String := none
  /-- Set on the first statement of a section. -/
  opens : Option Section := none
  deriving Repr, Inhabited

end ApiValidators
