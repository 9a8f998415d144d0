import ApiValidators.Files.Access

/-!
# A store of files

A file system as a value: folders and files by their place, which is the list of names that leads there from the root.
A place holds the same in `write` and `makeFolders` as before unless it is the one that is written or a folder that was
missing.
-/

namespace ApiValidators

/-- The names that lead to a file or folder from the root. -/
abbrev Place := List (List Char)

inductive Stored where
  | file (bytes : List UInt8)
  | folder
  deriving Repr, DecidableEq

/-- Files and folders, and the folder in which relative paths start. The root is always there. -/
structure Store where
  stored : List (Place × Stored) := []
  home : Place := []
  deriving Repr

namespace Store

def get? (s : Store) (place : Place) : Option Stored := if place = [] then some .folder else s.stored.lookup place

/-- Puts something at a place other than the root. -/
def put (s : Store) (place : Place) (x : Stored) : Store :=
  { s with stored := (place, x) :: s.stored.filter (·.1 != place) }

theorem get?_put_self {s : Store} {place : Place} {x : Stored} (h : place ≠ []) :
    (s.put place x).get? place = some x := by
  simp [get?, put, h]

theorem get?_put_of_ne {s : Store} {place other : Place} {x : Stored} (h : other ≠ place) :
    (s.put place x).get? other = s.get? other := by
  have lookup_filter (l : List (Place × Stored)) : (l.filter (·.1 != place)).lookup other = l.lookup other := by
    induction l with
    | nil => rfl
    | cons e es ih =>
      obtain ⟨k, v⟩ := e
      by_cases hk : k = place
      · subst hk
        have : (other == k) = false := by simpa using h
        simp [List.lookup_cons, ih, this]
      · simp [List.lookup_cons, hk, ih]
  have : (other == place) = false := by simpa using h
  simp only [get?, put, List.lookup_cons, this, lookup_filter]

/-! ## Following paths -/

def nameLimit : Nat := 255

def tooLong (name : List Char) : Bool := (String.ofList name).utf8ByteSize > nameLimit

/-- The place that pieces of a path lead to. All but the last name must be there, and be folders. -/
def walk (s : Store) : (pieces : List (List Char)) → Place → Except FileError Place
  | [], place => .ok place
  | piece :: rest, place =>
    match s.get? place with
    | none => .error .notFound
    | some (.file _) => .error .notFolder
    | some .folder =>
      if Path.isIdle piece then walk s rest place
      else if piece == Path.above then walk s rest place.dropLast
      else if tooLong piece then .error .nameTooLong
      else walk s rest (place ++ [piece])

def pathLimit : Nat := 4095

def start (s : Store) (path : List Char) : Place := if path.head? = some '/' then [] else s.home

/-- The pieces of a path that can be followed. -/
def pieces (path : List Char) : Except FileError (List (List Char)) :=
  if path.contains (Char.ofNat 0) then .error .badName
  else if path.isEmpty then .error .notFound
  else if (String.ofList path).utf8ByteSize > pathLimit then .error .nameTooLong
  else .ok (Path.pieces path)

def find (s : Store) (path : List Char) : Except FileError Stored := do
  let place ← s.walk (← pieces path) (s.start path)
  match s.get? place with
  | some x => .ok x
  | none => .error .notFound

def isFolder (s : Store) (path : List Char) : Bool :=
  match s.find path with
  | .ok .folder => true
  | _ => false

/-- The folder that holds, or would hold, the end of a path, and its name there; no name if the path ends in a piece
that is no name. -/
def holder (s : Store) (start : Place) (ps : List (List Char)) : Except FileError (Place × Option (List Char)) := do
  let folder ← s.walk ps.dropLast start
  match s.get? folder with
  | none => .error .notFound
  | some (.file _) => .error .notFolder
  | some .folder =>
    match ps.getLast? with
    | none => .ok (folder, none)
    | some name =>
      if Path.isIdle name || name == Path.above then .ok (folder, none)
      else if tooLong name then .error .nameTooLong
      else .ok (folder, some name)

/-- Pieces without the empty ones at their end, and whether there were any. -/
def withoutSlashes (ps : List (List Char)) : List (List Char) × Bool :=
  let kept := (ps.reverse.dropWhile List.isEmpty).reverse
  (kept, kept.length < ps.length)

/-! ## Operations -/

def read (path : List Char) (s : Store) : Except FileError (List UInt8) := do
  match ← s.find path with
  | .file bytes => .ok bytes
  | .folder => .error .isFolder

def isFile (path : List Char) (s : Store) : Bool :=
  match s.find path with
  | .ok (.file _) => true
  | _ => false

/-- The place where a file can be written. -/
def writable (path : List Char) (s : Store) : Except FileError Place := do
  let (ps, slashes) := withoutSlashes (← pieces path)
  let (folder, name) ← s.holder (s.start path) ps
  match name with
  | none => .error .isFolder
  | some name =>
    if slashes || s.get? (folder ++ [name]) == some .folder then .error .isFolder else .ok (folder ++ [name])

/-- Makes a file of bytes, or replaces the bytes of one. -/
def write (path : List Char) (bytes : List UInt8) (s : Store) : Except FileError Store :=
  (s.writable path).map fun place => s.put place (.file bytes)

def makeFolder (path : List Char) (s : Store) : Except FileError Store := do
  let (ps, _) := withoutSlashes (← pieces path)
  let (folder, name) ← s.holder (s.start path) ps
  match name with
  | none => .error .exists
  | some name =>
    if (s.get? (folder ++ [name])).isSome then .error .exists else .ok (s.put (folder ++ [name]) .folder)

/-- Makes a folder and the folders above it that are missing, going up at most `depth` of them. A folder that is there
already is left alone. -/
def makeFolders : (depth : Nat) → (path : List Char) → Store → Except FileError Unit × Store
  | 0, _, s => (.error .notFound, s)
  | depth + 1, path, s =>
    let settle (made : Except FileError Store) (s : Store) : Except FileError Unit × Store :=
      match made with
      | .ok s => (.ok (), s)
      | .error e => (if s.isFolder path then .ok () else .error e, s)
    if path.isEmpty then (.ok (), s)
    else
      match s.makeFolder path with
      | .error .notFound =>
        match Path.parent? path with
        | none => (.error .notFound, s)
        | some above =>
          match makeFolders depth above s with
          | (.ok (), s) => settle (s.makeFolder path) s
          | failed => failed
      | made => settle made s

/-- A store as a file system. -/
def access : FileAccess (StateM Store) where
  read path := do return (← get).read path.toList
  isFile path := do return (← get).isFile path.toList
  makeFolders path := modifyGet (makeFolders (path.length + 1) path.toList)
  write path bytes := do
    match (← get).write path.toList bytes with
    | .ok s => set s; return .ok ()
    | .error e => return .error e

end Store

end ApiValidators
