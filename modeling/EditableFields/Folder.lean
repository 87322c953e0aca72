/-!
# Folders

A tree of files, and how paths lead through it. A relative path starts at the top of the tree, and
an absolute one in the directories around it. What else is in those directories is not known here:
no name leads from them to anything, also not back into the tree, and what is written there leaves
the tree as it was.
-/

namespace EditableFields

/-- Why a file cannot be read or written. -/
inductive FileError where
  | missing
  | isDirectory
  | notDirectory
  | nameTooLong
  /-- The path holds a zero character. -/
  | zeroInPath
  /-- Anything else that a system may report. -/
  | other (text : String)
deriving DecidableEq, Repr

def FileError.message : FileError → String
  | missing => "No such file or directory (os error 2)"
  | isDirectory => "Is a directory (os error 21)"
  | notDirectory => "Not a directory (os error 20)"
  | nameTooLong => "File name too long (os error 36)"
  | zeroInPath => "file name contained an unexpected NUL byte"
  | other text => text

/-- The greatest number of bytes in a name. -/
def maxNameBytes : Nat := 255

/-- The greatest number of bytes in a path. -/
def maxPathBytes : Nat := 4095

/-- Where a path leads. -/
inductive Place where
  /-- To what the names lead to from the top of the tree. -/
  | within (names : List String)
  /-- To a directory around the tree. -/
  | around
deriving DecidableEq, Repr

/-- The directory around a place. -/
def Place.parent : Place → Place
  | within [] => around
  | within names => within names.dropLast
  | around => around

/-- Files by the names that lead to them. The directories are those that lead to files, and the
top. -/
structure Folder where
  files : List (List String × String)
deriving DecidableEq, Repr

namespace Folder

/-- The content of the file that names lead to. -/
def file? (f : Folder) (names : List String) : Option String :=
  f.files.lookup names

/-- Whether names lead to a file. -/
def hasFile (f : Folder) (names : List String) : Bool :=
  (f.file? names).isSome

/-- Whether names lead to a directory. -/
def hasDirectory (f : Folder) (names : List String) : Bool :=
  names.isEmpty || f.files.any fun e => names.isPrefixOf e.1 && names != e.1

/-- Whether there is a file at a place. -/
def isFile (f : Folder) : Place → Bool
  | .within names => f.hasFile names
  | .around => false

/-- The names in a path. A name is empty where slashes meet and after the last slash. -/
def names (path : String) : List String :=
  path.splitOn "/"

/-- Where a path starts from. -/
def start (path : String) : Place :=
  if path.toList.head? = some '/' then .around else .within []

/-- Refuses what cannot be a path at all. -/
def checkPath (path : String) : Except FileError Unit :=
  if path.toList.contains '\x00' then .error .zeroInPath
  else if path.isEmpty then .error .missing
  else if maxPathBytes < path.utf8ByteSize then .error .nameTooLong
  else .ok ()

/-- Where a name leads from a directory. -/
def enter (f : Folder) (place : Place) (name : String) : Except FileError Place :=
  if maxNameBytes < name.utf8ByteSize then .error .nameTooLong
  else match place with
  | .within names =>
    if f.hasFile (names ++ [name]) || f.hasDirectory (names ++ [name]) then
      .ok (.within (names ++ [name]))
    else .error .missing
  | .around => .error .missing

/-- Where names lead from a place on. Each but the last has to lead to a directory. -/
def follow (f : Folder) (place : Place) : List String → Except FileError Place
  | [] => .ok place
  | name :: rest =>
    if f.isFile place then .error .notDirectory
    else if name = "" || name = "." then f.follow place rest
    else if name = ".." then f.follow place.parent rest
    else match f.enter place name with
      | .error e => .error e
      | .ok place => f.follow place rest

/-- Reads the file at a place. -/
def readAt (f : Folder) : Place → Except FileError String
  | .within names =>
    match f.file? names with
    | some content => .ok content
    | none => .error .isDirectory
  | .around => .error .isDirectory

/-- Reads the file that a path leads to. -/
def read (f : Folder) (path : String) : Except FileError String := do
  checkPath path
  let place ← f.follow (start path) (names path)
  f.readAt place

/-- Sets the content of the file that names lead to. -/
def put (f : Folder) (names : List String) (content : String) : Folder :=
  if f.hasFile names then
    ⟨f.files.map fun e => if e.1 = names then (names, content) else e⟩
  else ⟨f.files ++ [(names, content)]⟩

/-- Writes the file that a name leads to from a directory. -/
def writeIn (f : Folder) (place : Place) (name content : String) : Except FileError Folder :=
  if f.isFile place then .error .notDirectory
  else if name = "." || name = ".." then .error .isDirectory
  else if maxNameBytes < name.utf8ByteSize then .error .nameTooLong
  else match place with
  | .within names =>
    if f.hasDirectory (names ++ [name]) then .error .isDirectory
    else .ok (f.put (names ++ [name]) content)
  | .around => .ok f

/-- Writes the file that a path leads to; its directory has to be there. A path that ends with a
slash leads to no file. -/
def write (f : Folder) (path content : String) : Except FileError Folder := do
  checkPath path
  let named := ((names path).reverse.dropWhile (·.isEmpty)).reverse
  let place ← f.follow (start path) named.dropLast
  let name := if (names path).getLast? = some "" then "." else named.getLastD "."
  f.writeIn place name content

/-- The files of a folder that `before` holds not at all or with another content, by path. -/
def changesSince (before f : Folder) : List (String × String) :=
  (f.files.filter fun e => before.file? e.1 != some e.2).map fun e =>
    ("/".intercalate e.1, e.2)

end Folder

/-- The path of `name` in the directory `base`; an absolute name stands for itself. -/
def joinPath (base name : String) : String :=
  if name.toList.head? = some '/' then name
  else if base.isEmpty || base.toList.getLast? = some '/' then base ++ name
  else base ++ "/" ++ name

end EditableFields
