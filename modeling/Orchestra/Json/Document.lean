import Orchestra.Json.Basic

namespace Orchestra

/-- The syntax tree of a JSON text. A number beyond the doubles, and a string with a lone surrogate, have no
value. Other media have floats that are not finite, which no field takes. -/
inductive Document where
  | null
  | bool (value : Bool)
  | number (value : Option Number)
  | nonFinite
  | string (value : Option String)
  | array (items : List Document)
  | object (members : List (Option String × Document))
deriving Inhabited, Repr

namespace Document

mutual

def ofJson : Json → Document
  | .null => .null
  | .bool b => .bool b
  | .number n => .number (some n)
  | .string s => .string (some s)
  | .array items => .array (ofJsonItems items)
  | .object fields => .object (ofJsonFields fields)

def ofJsonItems : List Json → List Document
  | [] => []
  | item :: rest => ofJson item :: ofJsonItems rest

def ofJsonFields : List (String × Json) → List (Option String × Document)
  | [] => []
  | (key, value) :: rest => (some key, ofJson value) :: ofJsonFields rest

end

mutual

/-- The value of a document whose leaves all have one and whose nesting fits the room, if there is a limit.
The last member of a key stands, and a float that is not finite counts as null. -/
def toJson? (room : Option Nat) : Document → Option Json
  | .null => some .null
  | .bool b => some (.bool b)
  | .number n => n.map .number
  | .nonFinite => some .null
  | .string s => s.map .string
  | .array items =>
    if room = some 0 then none else (itemsToJson? (room.map (· - 1)) items).map .array
  | .object members =>
    if room = some 0 then none
    else (membersToJson? (room.map (· - 1)) members).map fun fields => .object (Dict.ofList fields).entries

def itemsToJson? (room : Option Nat) : List Document → Option (List Json)
  | [] => some []
  | item :: rest =>
    match toJson? room item, itemsToJson? room rest with
    | some value, some values => some (value :: values)
    | _, _ => none

def membersToJson? (room : Option Nat) : List (Option String × Document) → Option (List (String × Json))
  | [] => some []
  | (key, item) :: rest =>
    match key, toJson? room item, membersToJson? room rest with
    | some key, some value, some fields => some ((key, value) :: fields)
    | _, _, _ => none

end

end Document

end Orchestra
