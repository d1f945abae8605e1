import Orchestra.Text

namespace Orchestra

inductive FileFormat where
  | json
  | toml
deriving DecidableEq, Repr

namespace FileName

/-- The names along a path, without those that lead nowhere. -/
def parts (path : String) : List String :=
  ((splitBy '/' path.toList).map String.ofList).filter fun part => part ≠ "" ∧ part ≠ "."

/-- The name at the end of a path, unless the path ends in a parent directory. -/
def last? (path : String) : Option String := ((parts path).getLast?).filter (· ≠ "..")

/-- What follows the last dot of the name at the end of a path; a dot at its start does not count. -/
def extension? (path : String) : Option String :=
  (last? path).bind fun name =>
    let reversed := name.toList.reverse
    match reversed.dropWhile (· ≠ '.') with
    | [] | ['.'] => none
    | _ => some (String.ofList (reversed.takeWhile (· ≠ '.')).reverse)

/-- The path of the directory that holds what lies at a path; it is empty for a single name. -/
def parent (path : String) : String :=
  (if path.startsWith "/" then "/" else "") ++ "/".intercalate (parts path).dropLast

/-- What is left of a path in reverse order without what leads nowhere at its end. -/
def bareReversed : List Char → List Char
  | '/' :: rest => bareReversed rest
  | '.' :: '/' :: rest => bareReversed rest
  | cs => cs

def bare (path : String) : String := String.ofList (bareReversed path.toList.reverse).reverse

def join (directory name : String) : String :=
  if directory = "" ∨ directory.endsWith "/" then directory ++ name else directory ++ "/" ++ name

/-- Takes back the last of some names, unless they lead upwards already. -/
def upwards (names : List String) : List String :=
  match names.getLast? with
  | none | some ".." => names ++ [".."]
  | some _ => names.dropLast

end FileName

def FileFormat.ofPath? (path : String) : Option FileFormat :=
  match FileName.extension? path with
  | some "json" => some .json
  | some "toml" => some .toml
  | _ => none

end Orchestra
