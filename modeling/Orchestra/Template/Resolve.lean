import Orchestra.Template.Placeholder
import Orchestra.Json.Text

namespace Orchestra

namespace Template

/-- A value inside running text: a string as it is, all else as compact JSON. -/
def inlined : Json → String
  | .string s => s
  | value => value.compact

variable (inputs state : Dict Json)

/-- What a part contributes to running text; a placeholder without a value stays as written. -/
def Part.filled : Part → List Char
  | .literal c => [c]
  | .placeholder name =>
    match Path.lookup name inputs state with
    | some value => (inlined value).toList
    | none => (Part.placeholder name).written

/-- Fills in a text. One placeholder alone gives the value itself, with its type. -/
def resolveText (text : String) : Json :=
  match parts text with
  | [.placeholder name] => (Path.lookup name inputs state).getD (.string text)
  | found => .string (String.ofList (found.flatMap (Part.filled inputs state)))

mutual

/-- Fills in every string of a value; keys and other scalars stay. -/
def resolve : Json → Json
  | .string text => resolveText inputs state text
  | .array items => .array (resolveItems items)
  | .object fields => .object (resolveFields fields)
  | other => other

def resolveItems : List Json → List Json
  | [] => []
  | item :: rest => resolve item :: resolveItems rest

def resolveFields : List (String × Json) → List (String × Json)
  | [] => []
  | (key, value) :: rest => (key, resolve value) :: resolveFields rest

end

mutual

/-- The placeholder names of every string of a value, in order of occurrence. -/
def allNames : Json → List String
  | .string text => names text
  | .array items => allNamesOfItems items
  | .object fields => allNamesOfFields fields
  | _ => []

def allNamesOfItems : List Json → List String
  | [] => []
  | item :: rest => allNames item ++ allNamesOfItems rest

def allNamesOfFields : List (String × Json) → List String
  | [] => []
  | (_, value) :: rest => allNames value ++ allNamesOfFields rest

end

theorem resolveItems_eq_map (items : List Json) : resolveItems inputs state items = items.map (resolve inputs state) := by
  induction items with
  | nil => rfl
  | cons item rest ih => rw [resolveItems, ih, List.map_cons]

theorem resolveFields_eq_map (fields : List (String × Json)) :
    resolveFields inputs state fields = fields.map fun field => (field.1, resolve inputs state field.2) := by
  induction fields with
  | nil => rfl
  | cons field rest ih => rw [resolveFields, ih, List.map_cons]

/-- The placeholders of a template that have no value, each once, in order of first occurrence. -/
def unresolved (template : Json) : List String :=
  ((allNames template).filter fun name => (Path.lookup name inputs state).isNone).eraseDups

end Template

end Orchestra
