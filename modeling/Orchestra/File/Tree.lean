import Orchestra.Text

namespace Orchestra

/-- A file with its content, or a directory with the names of what lies in it. -/
inductive FileNode where
  | file (content : ByteArray)
  | directory (names : List String)

def FileNode.text? : FileNode → Option String
  | .file content => String.fromUTF8? content
  | .directory _ => none

/-- A place in a tree: the names that lead there from the root. -/
abbrev Place := List String

namespace Place

def isOuter (place : Place) : Bool := place.all (· = "..")

/-- The place around a place. -/
def parent (place : Place) : Place := if isOuter place then place ++ [".."] else place.dropLast

end Place

/-- Files and directories by place. The root is a directory that is always there, and so is what lies around
it. -/
structure FileTree where
  files : List (Place × ByteArray) := []
  directories : List Place := []

namespace FileTree

def isDirectory (tree : FileTree) (place : Place) : Bool := Place.isOuter place || tree.directories.contains place

def content? (tree : FileTree) (place : Place) : Option ByteArray :=
  (tree.files.find? (·.1 = place)).map Prod.snd

/-- Follows names from a place. Only a directory can be left or stayed in. -/
def follow? (tree : FileTree) : Place → List String → Option Place
  | place, [] => some place
  | place, name :: rest =>
    if ¬ tree.isDirectory place then none
    else if name = "" ∨ name = "." then tree.follow? place rest
    else if name = ".." then tree.follow? (Place.parent place) rest
    else tree.follow? (place ++ [name]) rest

/-- The number of bytes from which on a path is refused. -/
def pathBound : Nat := 4096

/-- The place that a path leads to from the root of the tree; something may be there or not. A path that is
empty, too long, or starts at the root of the system leads nowhere. -/
def place? (tree : FileTree) (path : String) : Option Place :=
  match path.toList with
  | [] | '/' :: _ => none
  | cs => if pathBound ≤ path.utf8ByteSize then none else tree.follow? [] ((splitBy '/' cs).map String.ofList)

def names (tree : FileTree) (place : Place) : List String :=
  (tree.files.map Prod.fst ++ tree.directories).filterMap fun inner =>
    if inner ≠ [] ∧ inner.dropLast = place then inner.getLast? else none

def look (tree : FileTree) (path : String) : Option FileNode :=
  (tree.place? path).bind fun place =>
    match tree.content? place with
    | some content => some (.file content)
    | none => if tree.isDirectory place then some (.directory (tree.names place)) else none

def nameBound : Nat := 255

def isName (name : String) : Bool := name.utf8ByteSize ≤ nameBound && !name.toList.contains '\x00'

/-- Follows names from a place and makes the directories that are missing, as far as that is possible. A file
may be in the way. Answers whether all of them are there. -/
def enter (tree : FileTree) : Place → List String → FileTree × Bool
  | _, [] => (tree, true)
  | place, name :: rest =>
    if name = "" ∨ name = "." then tree.enter place rest
    else if name = ".." then tree.enter (Place.parent place) rest
    else
      let inner := place ++ [name]
      if tree.isDirectory inner then tree.enter inner rest
      else if (tree.content? inner).isSome ∨ ¬ isName name then (tree, false)
      else enter { tree with directories := tree.directories ++ [inner] } inner rest

/-- Makes a directory and those around it. -/
def makeDirectory (tree : FileTree) (path : String) : FileTree × Bool :=
  match path.toList with
  | [] | '/' :: _ => (tree, false)
  | cs =>
    if pathBound ≤ path.utf8ByteSize ∨ cs.contains '\x00' then (tree, false)
    else tree.enter [] ((splitBy '/' cs).map String.ofList)

def write? (tree : FileTree) (path : String) (content : ByteArray) : Option FileTree :=
  (tree.place? path).bind fun place =>
    if tree.isDirectory place ∨ ¬ tree.isDirectory place.dropLast ∨ ¬ (place.getLast?.all isName) then none
    else some { tree with files := (tree.files.filter (·.1 ≠ place)) ++ [(place, content)] }

def remove (tree : FileTree) (path : String) : FileTree :=
  (tree.place? path).elim tree fun place => { tree with files := tree.files.filter (·.1 ≠ place) }

end FileTree

end Orchestra
