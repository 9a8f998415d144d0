/-!
# Paths and access to files

A path is text with slashes between its names. Empty names and single dots stay where they are; two dots are the folder
above. What the commands need of a file system, whatever it is, is `FileAccess`, and why it may refuse is `FileError`.
-/

namespace ApiValidators.Path

/-- The text between slashes. -/
def pieces : List Char → List (List Char)
  | [] => [[]]
  | c :: cs =>
    match pieces cs with
    | [] => [[c]]
    | p :: ps => if c == '/' then [] :: p :: ps else (c :: p) :: ps

def join (ps : List (List Char)) : List Char := List.intercalate ['/'] ps

def isIdle (piece : List Char) : Bool := piece.isEmpty || piece == ['.']

/-- The piece that leads to the folder above. -/
def above : List Char := ['.', '.']

/-- The name of what the path leads to; there is none if it ends by going up or goes nowhere. -/
def fileName? (text : List Char) : Option (List Char) :=
  (((pieces text).filter fun p => !isIdle p).getLast?).filter (· != above)

/-- What follows the last dot of the name, unless that dot is its first character. -/
def extension? (text : List Char) : Option (List Char) := do
  let name ← fileName? text
  let extension := (name.reverse.takeWhile (· != '.')).reverse
  if name.length ≤ extension.length + 1 then none else some extension

/-- Pieces without the idle ones at their end. -/
def dropIdle (ps : List (List Char)) : List (List Char) := (ps.reverse.dropWhile isIdle).reverse

/-- The path without its last name; the root and the empty path have none. -/
def parent? (text : List Char) : Option (List Char) :=
  match pieces text with
  | [] => none
  | first :: rest =>
    match (dropIdle rest).reverse with
    | _ :: before =>
      let kept := dropIdle before.reverse
      if first.isEmpty && kept.isEmpty then some ['/'] else some (join (first :: kept))
    | [] => if first.isEmpty then none else some []

end ApiValidators.Path

namespace ApiValidators

inductive FileError where
  | notFound
  | exists
  | notFolder
  | isFolder
  | nameTooLong
  /-- The name holds a character that no name may hold. -/
  | badName
  /-- The bytes of the file are no text. -/
  | notText
  | other (message : String)
  deriving Repr, DecidableEq

def FileError.message : FileError → String
  | notFound => "No such file or directory (os error 2)"
  | .exists => "File exists (os error 17)"
  | notFolder => "Not a directory (os error 20)"
  | isFolder => "Is a directory (os error 21)"
  | nameTooLong => "File name too long (os error 36)"
  | badName => "file name contained an unexpected NUL byte"
  | notText => "stream did not contain valid UTF-8"
  | other message => message

/-- The operations of a file system. -/
structure FileAccess (m : Type → Type) where
  /-- The bytes of a file. -/
  read : (path : String) → m (Except FileError (List UInt8))
  /-- Whether a path leads to a file. -/
  isFile : (path : String) → m Bool
  /-- Makes a folder, and all folders above it that are missing. -/
  makeFolders : (path : String) → m (Except FileError Unit)
  /-- Makes a file of bytes, or replaces the bytes of one. -/
  write : (path : String) → (bytes : List UInt8) → m (Except FileError Unit)

end ApiValidators
