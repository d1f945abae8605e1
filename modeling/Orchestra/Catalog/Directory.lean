import Orchestra.Catalog
import Orchestra.File.Host
import Orchestra.File.Name
import Orchestra.Toml.Reader

namespace Orchestra

def Pattern.ofToml? (text : String) : Option Pattern :=
  (Toml.read? text).bind fun entries => Pattern.read? .toml (Toml.toDocument (.table entries))

/-- Why a file holds no pattern. -/
inductive PatternFileError where
  | unreadable (path : String)
  | malformed (format : FileFormat) (path : String)
deriving DecidableEq, Repr

def PatternFileError.message : PatternFileError → String
  | unreadable path => "Failed to read pattern file " ++ path
  | malformed .json path => "Invalid JSON pattern " ++ path
  | malformed .toml path => "Invalid TOML pattern " ++ path

def Pattern.ofFormat? : FileFormat → String → Option Pattern
  | .json, text => Pattern.ofText? text
  | .toml, text => Pattern.ofToml? text

/-- The pattern in what lies at a path. A file whose name tells no format is read as JSON. -/
def Pattern.ofNode (path : String) (node : Option FileNode) : Except PatternFileError Pattern :=
  match node.bind FileNode.text? with
  | none => .error (.unreadable path)
  | some text =>
    let format := (FileFormat.ofPath? path).getD .json
    match Pattern.ofFormat? format text with
    | some pattern => .ok pattern
    | none => .error (.malformed format path)

abbrev Listing := List (String × Option FileNode)

namespace Catalog

/-- The patterns of a listing, in the order of their files' names. Only files whose names tell a format
count, and those without a pattern are passed over. -/
def patternsOf (listing : Listing) : List Pattern :=
  (((listing.filter fun entry => (FileFormat.ofPath? entry.1).isSome).mergeSort fun a b => a.1 ≤ b.1)).filterMap
    fun entry => (Pattern.ofNode entry.1 entry.2).toOption

/-- Adds the patterns of a listing, and answers how many there are. -/
def load (catalog : Catalog) (listing : Listing) : Catalog × Nat :=
  let patterns := patternsOf listing
  (patterns.foldl insert catalog, patterns.length)

variable {m : Type → Type} [Monad m]

/-- Adds the patterns of the directory at a path. Where nothing lies, there are none; a file is no
directory. -/
def loadFrom? (catalog : Catalog) (host : Host m) (path : String) : m (Option (Catalog × Nat)) := do
  match ← host.look path with
  | none => return some (catalog, 0)
  | some (.file _) => return none
  | some (.directory names) =>
    let listing ← names.mapM fun name => do return (name, ← host.look (FileName.join path name))
    return some (catalog.load listing)

end Catalog

end Orchestra
