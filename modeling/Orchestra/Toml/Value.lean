import Orchestra.Json.Record
import Orchestra.Number.Extended

namespace Orchestra

/-- A TOML value. Dates and times are kept as their normal text. -/
inductive Toml where
  | string (value : String)
  | integer (value : Int)
  | float (value : ExtendedDouble)
  | bool (value : Bool)
  | moment (text : String)
  | array (items : List Toml)
  | table (entries : List (String × Toml))

namespace Toml

/-- The key under which a date or time lies when it becomes an object. -/
def momentKey : String := "$__toml_private_datetime"

mutual

/-- The value as a document. -/
def toDocument : Toml → Document
  | .string s => .string (some s)
  | .integer n => .number (some (.int n))
  | .float (.finite x) => .number (some (.real x))
  | .float _ => .nonFinite
  | .bool b => .bool b
  | .moment text => .object [(some momentKey, .string (some text))]
  | .array items => .array (itemsToDocument items)
  | .table entries => .object (entriesToDocument entries)

def itemsToDocument : List Toml → List Document
  | [] => []
  | item :: rest => toDocument item :: itemsToDocument rest

def entriesToDocument : List (String × Toml) → List (Option String × Document)
  | [] => []
  | (key, value) :: rest => (some key, toDocument value) :: entriesToDocument rest

end

/-- An empty array or object stands for the absence of a payload. -/
def isUnit : Document → Bool
  | .array items => items.isEmpty
  | .object members => members.isEmpty
  | _ => false

end Toml

/-- TOML text. -/
def Medium.toml : Medium := ⟨none, Toml.isUnit, true⟩

end Orchestra
