import Orchestra.Dict
import Orchestra.Number.Decimal

namespace Orchestra

inductive Number where
  | int (value : Int)
  | real (value : Double)
deriving DecidableEq, Repr

inductive Json where
  | null
  | bool (value : Bool)
  | number (value : Number)
  | string (value : String)
  | array (items : List Json)
  | object (fields : List (String × Json))
deriving Inhabited, Repr

namespace Json

def ofNat (n : Nat) : Json := .number (.int n)

def ofStrings (texts : List String) : Json := .array (texts.map .string)

/-- A text, or null for none. -/
def ofString? (text : Option String) : Json := text.elim .null .string

def string? : Json → Option String
  | .string s => some s
  | _ => none

def bool? : Json → Option Bool
  | .bool b => some b
  | _ => none

def array? : Json → Option (List Json)
  | .array items => some items
  | _ => none

def object? : Json → Option (List (String × Json))
  | .object fields => some fields
  | _ => none

/-- The natural number that an integer in range denotes. -/
def nat? : Json → Option Nat
  | .number (.int n) => if 0 ≤ n then some n.toNat else none
  | _ => none

def int? : Json → Option Int
  | .number (.int n) => some n
  | _ => none

/-- The member of an object with this key. -/
def field? : Json → String → Option Json
  | .object fields, key => Fields.get? fields key
  | _, _ => none

mutual

/-- The same value with the members of every object in ascending key order, the last of a key standing. -/
def canonical : Json → Json
  | .array items => .array (canonicalItems items)
  | .object fields => .object (Dict.ofList (canonicalFields fields)).entries
  | other => other

def canonicalItems : List Json → List Json
  | [] => []
  | item :: rest => canonical item :: canonicalItems rest

def canonicalFields : List (String × Json) → List (String × Json)
  | [] => []
  | (key, value) :: rest => (key, canonical value) :: canonicalFields rest

end

theorem canonicalItems_eq_map (items : List Json) : canonicalItems items = items.map canonical := by
  induction items with
  | nil => rfl
  | cons item rest ih => rw [canonicalItems, ih, List.map_cons]

theorem canonicalFields_eq_map (fields : List (String × Json)) :
    canonicalFields fields = fields.map fun field => (field.1, field.2.canonical) := by
  induction fields with
  | nil => rfl
  | cons field rest ih => rw [canonicalFields, ih, List.map_cons]

end Json

namespace Number

/-- The number as a double, rounded to the nearest one. -/
def toDouble : Number → Double
  | .int n => Double.ofInt n
  | .real x => x

end Number

end Orchestra
