namespace Orchestra

/-- What a place prefers values to be. -/
inductive SqlAffinity where
  /-- Any value stays as it is. -/
  | none
  | text
  | numeric
  /-- A number that may be whole. -/
  | real
deriving DecidableEq, Repr

namespace SqlAffinity

def occurs (word : String) (text : String) : Bool := go text.toList
where
  go : List Char → Bool
    | [] => false
    | c :: rest => word.toList.isPrefixOf (c :: rest) || go rest

def ofTypeName (name : String) : SqlAffinity :=
  if occurs "int" name then numeric
  else if ["char", "clob", "text"].any (occurs · name) then text
  else if occurs "blob" name then none
  else if ["real", "floa", "doub"].any (occurs · name) then real
  else numeric

/-- What two sides of a comparison prefer together. -/
def together : SqlAffinity → SqlAffinity → SqlAffinity
  | none, other | other, none => other
  | text, text => none
  | _, _ => numeric

end SqlAffinity

end Orchestra
