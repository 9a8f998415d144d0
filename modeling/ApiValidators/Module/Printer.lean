import ApiValidators.Module.Statement
import ApiValidators.Naming.Basic
import ApiValidators.Text.Quoted

/-!
# The text of a module

How expressions, statements and whole modules are written down. Objects put each member on a line of its own, four
blanks further in than the line that opens them; everything else stays on its line.
-/

namespace ApiValidators

namespace Layout

/-- A new line at a nesting depth. -/
def lineBreak (depth : Nat) : List Char := '\n' :: List.replicate (4 * depth) ' '

/-- `property_key`: a key of an object, bare where that is legal, else quoted. -/
def key (name : String) : List Char :=
  if Naming.isBareName name.toList then name.toList else Text.quoted name.toList

/-- Characters that end a line in generated code. -/
def endsLine (c : Char) : Bool := c == '\n' || c == '\r' || c.toNat == 0x2028 || c.toNat == 0x2029

/-- `single_line_comment`: a comment to the end of the line; it is kept on one line. -/
def lineComment (text : String) : List Char := "// ".toList ++ text.toList.filter fun c => !endsLine c

/-- A text that cannot end a block comment. -/
def insideBlock : List Char → List Char
  | '*' :: '/' :: rest => '*' :: '\\' :: '/' :: insideBlock rest
  | c :: rest => c :: insideBlock rest
  | [] => []

/-- `multi_line_comment`: the text as a comment, which it cannot end. -/
def blockComment (text : String) : List Char := "/* ".toList ++ insideBlock text.toList ++ " */".toList

def brackets (inner : List Char) : List Char := '[' :: (inner ++ [']'])

def commaSeparated : List (List Char) → List Char
  | [] => []
  | [part] => part
  | part :: parts => part ++ ',' :: ' ' :: commaSeparated parts

/-- Members, each on lines of its own, in braces; the braces of no members stand together. -/
def braces (depth : Nat) : List (List Char) → List Char
  | [] => ['\x7b', '\x7d']
  | members => '\x7b' :: (lines members ++ lineBreak depth ++ ['\x7d'])
where
  /-- Members on new lines, with commas between them. -/
  lines : List (List Char) → List Char
    | [] => []
    | [member] => lineBreak (depth + 1) ++ member
    | member :: members => lineBreak (depth + 1) ++ member ++ ',' :: lines members

end Layout

open Layout

namespace Literal

mutual

/-- `write_literal`: the text of a literal at a nesting depth. -/
def print (depth : Nat) : Literal → List Char
  | null => "null".toList
  | bool true => "true".toList
  | bool false => "false".toList
  | number n => n.text
  | string s => Text.quoted s.toList
  | array items => brackets (commaSeparated (printItems depth items))
  | object members => braces depth (printMembers (depth + 1) members)

def printItems (depth : Nat) : List Literal → List (List Char)
  | [] => []
  | l :: ls => print depth l :: printItems depth ls

def printMembers (depth : Nat) : List (String × Literal) → List (List Char)
  | [] => []
  | (name, l) :: ls => (key name ++ ':' :: ' ' :: print depth l) :: printMembers depth ls

end

end Literal

namespace Expr

def builderCall (name : String) (inner : List Char) : List Char := "z.".toList ++ name.toList ++ '(' :: (inner ++ [')'])

mutual

/-- `write_expr`: the text of an expression at a nesting depth. -/
def print (depth : Nat) : Expr → List Char
  | identifier name => name.toList
  | call base modifiers => printBase depth base ++ printModifiers depth modifiers

def printBase (depth : Nat) : Base Expr → List Char
  | .named name => name.toList
  | .string => builderCall "string" []
  | .number => builderCall "number" []
  | .boolean => builderCall "boolean" []
  | .null => builderCall "null" []
  | .unknown => builderCall "unknown" []
  | .enum labels => builderCall "enum" (brackets (commaSeparated (labels.map fun l => Text.quoted l.toList)))
  | .array item => builderCall "array" (print depth item)
  | .object members => builderCall "object" (braces depth (printMembers (depth + 1) members))
  | .union branches => builderCall "union" (brackets (commaSeparated (printEach depth branches)))

def printModifiers (depth : Nat) : List (Modifier Expr) → List Char
  | [] => []
  | ⟨name, arguments⟩ :: modifiers =>
    '.' :: (name.toList ++
      '(' :: (commaSeparated (printArguments depth arguments) ++ ')' :: printModifiers depth modifiers))

def printArguments (depth : Nat) : List (Argument Expr) → List (List Char)
  | [] => []
  | .literal l :: rest => l.print depth :: printArguments depth rest
  | .expr e :: rest => print depth e :: printArguments depth rest

def printEach (depth : Nat) : List Expr → List (List Char)
  | [] => []
  | e :: es => print depth e :: printEach depth es

def printMembers (depth : Nat) : List (Member Expr) → List (List Char)
  | [] => []
  | ⟨name, value, comment⟩ :: members =>
    ((comment.map fun text => lineComment text ++ lineBreak depth).getD [] ++
      (key name ++ ':' :: ' ' :: print depth value)) :: printMembers depth members

end

end Expr

/-- `statement`: the text of a statement, below its banner, if banners are on, and its comment. -/
def Statement.print (banners : Bool) (s : Statement) : List Char :=
  let banner := if banners then (s.opens.map fun o => blockComment o.title ++ ['\n']).getD [] else []
  let comment := (s.comment.map fun text => lineComment text ++ ['\n']).getD []
  banner ++ comment ++ "export const ".toList ++ s.identifier.toList ++ " = ".toList ++ s.expression.print 0 ++ [';']

namespace Module

/-- `IMPORT_HEADER`: the first line of every module. -/
def header : String := "import \x7b z \x7d from \"zod\";"

/-- `render`: the text of a module, the header and the statements, with a blank line before each. -/
def text (banners : Bool) (statements : List Statement) : List Char :=
  header.toList ++ (statements.flatMap fun s => '\n' :: '\n' :: s.print banners) ++ ['\n']

def fileExtension : String := "ts"

end Module

end ApiValidators
