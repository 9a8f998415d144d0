/-!
# Options of a run

How a value that is not required is marked, and which sections of the module are generated.
-/

namespace ApiValidators

/-- How a value that is not required is marked: `nullish` allows null and absence, `optional` absence alone. -/
inductive NullableMode where
  | nullish
  | optional
  deriving Repr, DecidableEq, Inhabited

namespace NullableMode

def all : List NullableMode := [nullish, optional]

/-- The name of a mode, which is also that of its modifier. -/
def name : NullableMode → String
  | nullish => "nullish"
  | optional => "optional"

def ofName? (name : String) : Option NullableMode := all.find? (·.name == name)

theorem ofName?_name (mode : NullableMode) : ofName? mode.name = some mode := by cases mode <;> decide

/-- What is said about a name that is no mode's. -/
def unknownMessage (name : String) : String :=
  "unknown nullable mode '" ++ name ++ "', expected 'nullish' or 'optional'"

end NullableMode

/-- What one run generates (`GenerateOptions`). -/
structure Options where
  components : Bool := true
  paths : Bool := true
  queries : Bool := true
  mode : NullableMode := .nullish
  deriving Repr, DecidableEq, Inhabited

end ApiValidators
