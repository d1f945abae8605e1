import Orchestra.Pattern.Reading

namespace Orchestra

/-- Patterns by id. Each lies under its own id. -/
structure Catalog where
  patterns : Dict Pattern := ∅
  keyed : ∀ {id : String} {pattern : Pattern}, patterns.get? id = some pattern → pattern.id = id := by
    intro _ _ found
    cases found

namespace Catalog

/-- Adds a pattern; a later one of the same id replaces it. -/
def insert (catalog : Catalog) (pattern : Pattern) : Catalog where
  patterns := catalog.patterns.insert pattern.id pattern
  keyed := by
    intro id other found
    rw [Dict.get?_insert] at found
    split at found
    · cases found
      assumption
    · exact catalog.keyed found

def empty : Catalog := {}

def ofList (patterns : List Pattern) : Catalog := patterns.foldl insert empty

def get? (catalog : Catalog) (id : String) : Option Pattern := catalog.patterns.get? id

def contains (catalog : Catalog) (id : String) : Bool := catalog.patterns.contains id

/-- The ids, in ascending order. -/
def ids (catalog : Catalog) : List String := catalog.patterns.keys

def size (catalog : Catalog) : Nat := catalog.patterns.size

end Catalog

end Orchestra
