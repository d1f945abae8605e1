import Orchestra.Number.Literal
import Orchestra.Json.Basic
import Orchestra.Toml.Moment
import Orchestra.Toml.Value

namespace Orchestra

inductive SettingValue where
  | nil
  | bool (value : Bool)
  | integer (value : Int)
  | float (value : ExtendedDouble)
  | text (value : String)
  | list (items : List SettingValue)
  | table (entries : List (String × SettingValue))
deriving Inhabited

/-- Settings by name. -/
abbrev SettingTable := List (String × SettingValue)

namespace SettingValue

/-- A table whose first key says so is a date or time, and has its text there. -/
def momentIn? : List (String × Toml) → Option (Option String)
  | (key, value) :: _ =>
    if key = Toml.momentKey then
      match value with
      | .string s => some (TomlMoment.ofText? s)
      | _ => some none
    else none
  | [] => none

mutual

/-- A date or time counts as its text. There is no value if a table says that it is one and is not. -/
def ofToml? : Toml → Option SettingValue
  | .string s => some (.text s)
  | .integer n => some (.integer n)
  | .float x => some (.float x)
  | .bool b => some (.bool b)
  | .moment s => some (.text s)
  | .array items => (ofTomlItems? items).map .list
  | .table entries =>
    match momentIn? entries with
    | some moment => moment.map .text
    | none => (ofTomlEntries? entries).map .table

def ofTomlItems? : List Toml → Option (List SettingValue)
  | [] => some []
  | item :: rest =>
    match ofToml? item, ofTomlItems? rest with
    | some value, some values => some (value :: values)
    | _, _ => none

def ofTomlEntries? : List (String × Toml) → Option SettingTable
  | [] => some []
  | (key, item) :: rest =>
    match ofToml? item, ofTomlEntries? rest with
    | some value, some entries => some ((key, value) :: entries)
    | _, _ => none

end

/-- An integer that is too great for 64 bits with a sign becomes a float. -/
def ofNumber : Number → SettingValue
  | .int n => if n < Nat.pow 2 63 then .integer n else .float (.finite (Double.ofInt n))
  | .real x => .float (.finite x)

mutual

def ofJson : Json → SettingValue
  | .null => .nil
  | .bool b => .bool b
  | .number n => ofNumber n
  | .string s => .text s
  | .array items => .list (ofJsonItems items)
  | .object fields => .table (ofJsonFields fields)

def ofJsonItems : List Json → List SettingValue
  | [] => []
  | item :: rest => ofJson item :: ofJsonItems rest

def ofJsonFields : List (String × Json) → SettingTable
  | [] => []
  | (key, value) :: rest => (key, ofJson value) :: ofJsonFields rest

end

def lowercase (text : String) : String := String.ofList (text.toList.map Char.toLower)

/-- A text from a variable is a truth value, an integer or a float if it reads as one. -/
def ofText (text : String) : SettingValue :=
  if lowercase text = "true" then .bool true
  else if lowercase text = "false" then .bool false
  else match Literal.integer? text with
    | some n => .integer n
    | none =>
      match Literal.double? text with
      | some x => .float x
      | none => .text text

/-- The number of seconds, levels or records that a float stands for: it is rounded, and forced into 64
bits. -/
def countOfFloat : ExtendedDouble → Nat
  | .finite x => if x.negative then 0 else min x.roundNat (Nat.pow 2 64 - 1)
  | .infinite negative => if negative then 0 else Nat.pow 2 64 - 1
  | .nan => 0

/-- The natural number that a text stands for; some words do, too. -/
def countOfText (text : String) : Option Nat :=
  let word := lowercase text
  if word = "true" ∨ word = "on" ∨ word = "yes" then some 1
  else if word = "false" ∨ word = "off" ∨ word = "no" then some 0
  else Literal.natural? text

/-- A value as a natural number. -/
def count? : SettingValue → Option Nat
  | .integer n => if 0 ≤ n then some n.toNat else none
  | .bool b => some (if b then 1 else 0)
  | .float x => some (countOfFloat x)
  | .text s => countOfText s
  | .nil | .list _ | .table _ => none

def textOfFloat : ExtendedDouble → String
  | .finite x => x.plainText
  | .infinite negative => if negative then "-inf" else "inf"
  | .nan => "NaN"

/-- A value as a text. -/
def text? : SettingValue → Option String
  | .text s => some s
  | .integer n => some (toString n)
  | .float x => some (textOfFloat x)
  | .bool b => some (if b then "true" else "false")
  | .nil | .list _ | .table _ => none

end SettingValue

end Orchestra
