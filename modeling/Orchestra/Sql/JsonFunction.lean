import Orchestra.Sql.LooseJson
import Orchestra.Sql.Value

namespace Orchestra

namespace LooseJson

/-- The name at the front of a path, and what follows. A quote ends one in quotes. -/
def pathName? : List Char → Option (String × List Char)
  | '"' :: rest =>
    let found := rest.takeWhile (· ≠ '"')
    match rest.drop found.length with
    | _ :: after => some (String.ofList found, after)
    | [] => none
  | cs =>
    let found := cs.takeWhile fun c => c ≠ '.' && c ≠ '['
    if found.isEmpty then none else some (String.ofList found, cs.drop found.length)

/-- The place in an array that a path starts with, if there is such a place, and what follows. It may be counted from
the end. -/
def pathIndex? (count : Nat) : List Char → Option (Option Nat × List Char)
  | '#' :: ']' :: rest => some (some count, rest)
  | '#' :: '-' :: rest =>
    let found := rest.takeWhile Char.isDigit
    let back := Literal.digitsValue found
    match rest.drop found.length with
    | ']' :: after => if found.isEmpty then none else some (if count < back then none else some (count - back), after)
    | after => if ¬ found.isEmpty ∧ count < back then some (none, after) else none
  | cs =>
    let found := cs.takeWhile Char.isDigit
    match cs.drop found.length with
    | ']' :: after => if found.isEmpty then none else some (some (Literal.digitsValue found), after)
    | _ => none

/-- What is at the end of a path of at most so many steps, if there is something. A path is only read as far as there
is. -/
def atPath? : Nat → List Char → LooseJson → Option (Option LooseJson)
  | _, [], value => some (some value)
  | 0, _, _ => none
  | fuel + 1, '.' :: path, value => do
    let (name, rest) ← pathName? path
    match value with
    | object fields =>
      match fields.find? (·.1.content = name) with
      | some (_, value) => atPath? fuel rest value
      | none => return none
    | _ => return none
  | fuel + 1, '[' :: path, array items => do
    let (index, rest) ← pathIndex? items.length path
    match index.bind (items[·]?) with
    | some value => atPath? fuel rest value
    | none => return none
  | _, '[' :: _, _ => some none
  | _, _, _ => none

def find? (value : LooseJson) (path : String) : Option (Option LooseJson) :=
  match path.toList with
  | '$' :: rest => atPath? rest.length rest value
  | _ => none

/-- A path that may be short for one: an index, or a name. -/
def longPath (value : SqlValue) (path : String) : String :=
  let cs := path.toList
  if cs.head? = some '$' then path
  else match value with
    | .integer n => if n < 0 then "$[#" ++ path ++ "]" else "$[" ++ path ++ "]"
    | _ =>
      if cs.all Char.isAlphanum then "$." ++ path
      else if cs.head? = some '[' ∧ cs.getLast? = some ']' ∧ 3 ≤ cs.length then "$" ++ path
      else "$.\"" ++ path ++ "\""

/-- A value as SQL has it. Arrays and objects are texts. -/
def sqlValue : LooseJson → SqlValue
  | null => .null
  | truth value => .ofBool value
  | number text => (SqlValue.numberOf text).1
  | string content => .text content.content
  | value => .text value.text

def typeName : LooseJson → String
  | null => "null"
  | truth value => if value then "true" else "false"
  | number text => if text.toList.any ['.', 'e', 'E'].contains then "real" else "integer"
  | string _ => "text"
  | array _ => "array"
  | object _ => "object"

end LooseJson

namespace SqlValue

/-- Whether bytes may be JSON in its binary form: a head with a type and a size, which fits. -/
def isBinaryJson (content : ByteArray) : Bool :=
  match content.toList with
  | [] => false
  | head :: rest =>
    let size := head.toNat / 16
    let width := if size < 12 then 0 else Nat.pow 2 (size - 12)
    let payload := if size < 12 then size else (rest.take width).foldl (fun n b => n * 256 + b.toNat) 0
    head.toNat % 16 ≤ 12 && width + payload = rest.length && (payload = 0 || 3 ≤ head.toNat % 16)

/-- The JSON in a value. There is none in what is missing, and that in its binary form is not looked at. -/
def json? (value : SqlValue) : Option (Option LooseJson) :=
  match value with
  | blob content =>
    if isBinaryJson content then some none
    else (value.text?.bind LooseJson.ofText?).map fun found => some found.1
  | null => some none
  | value => (value.text?.bind LooseJson.ofText?).map fun found => some found.1

/-- The value as one in JSON. Bytes are none unless they are JSON themselves. -/
def asJson? : SqlValue → Option LooseJson
  | null => some .null
  | integer n => some (.number (toString n))
  | real x => (real x).text?.map .number
  | text content => some (.string (LooseJson.ofString content))
  | blob content => if isBinaryJson content then some .null else none

def members? : List SqlValue → Option (List (LooseText × LooseJson))
  | [] => some []
  | text name :: value :: rest => do
    let value ← value.asJson?
    return (LooseJson.ofString name, value) :: (← members? rest)
  | _ => none

end SqlValue

namespace SqlFunction

/-- What stands at some paths. A missing path leads nowhere, and there is no value then. -/
def jsonParts? (json : LooseJson) (isShort : Bool) : List SqlValue → Option (Option (List (Option LooseJson)))
  | [] => some (some [])
  | path :: rest =>
    match path.text? with
    | none => some none
    | some text => do
      let found ← json.find? (if isShort then LooseJson.longPath path text else text)
      return (← jsonParts? json isShort rest).map (found :: ·)

/-- Takes parts out of JSON. Several of them make an array. -/
def jsonExtract? (isShort : Bool) (shown : LooseJson → SqlValue) (source : SqlValue) (paths : List SqlValue) :
    Option SqlValue := do
  match ← source.json? with
  | none => return .null
  | some json =>
    match ← jsonParts? json isShort paths with
    | none => return .null
    | some [found] => return found.elim .null shown
    | some found => return shown (.array (found.map fun part => part.getD .null))

def jsonAsk? (ask : LooseJson → SqlValue) (source : SqlValue) (path : List SqlValue) : Option SqlValue := do
  match ← source.json? with
  | none => return .null
  | some json =>
    match path with
    | [] => return ask json
    | path => jsonExtract? false ask source path

/-- Makes sure that JSON can be changed at some paths, which may come with values. What comes out is not followed. -/
def jsonChange? (source : SqlValue) (changes : List (SqlValue × Option SqlValue)) : Option SqlValue := do
  match ← source.json? with
  | none => return .null
  | some json =>
    for (path, value) in changes do
      match path.text? with
      | none => pure ()
      | some path =>
        guard (value.all fun value => value.asJson?.isSome)
        discard (json.find? path)
    return .null

def pairs : List SqlValue → List (SqlValue × Option SqlValue)
  | path :: value :: rest => (path, some value) :: pairs rest
  | _ => []

/-- Whether a value is JSON in some of four senses, which are bits: strict, loose, and two for the binary form. -/
def isJson (value : SqlValue) (senses : Int) : SqlValue :=
  let isBinary := match value with
    | .blob content => SqlValue.isBinaryJson content
    | _ => false
  if value.isNull then .null
  else if isBinary then .ofBool (4 ≤ senses)
  else match value.text?.bind LooseJson.ofText? with
    | some (_, strict) => .ofBool (senses / 2 % 2 = 1 || (senses % 2 = 1 && strict))
    | none => .ofBool false

/-- The value of a function about JSON, if there is no failure. The names of those that answer JSON in its binary form
stand for the others. -/
def jsonValue? (name : String) (arguments : List SqlValue) : Option SqlValue :=
  match name, arguments with
  | "json", [v] | "json_pretty", [v] | "json_pretty", [v, _] => jsonAsk? (fun json => .text json.text) v []
  | "json_valid", [v] => some (isJson v 1)
  | "json_valid", [v, senses] => if 1 ≤ senses.whole ∧ senses.whole ≤ 15 then some (isJson v senses.whole) else none
  | "json_error_position", [v] =>
    some (if v.isNull then .null else .ofBool v.json?.isNone)
  | "json_quote", [v] => v.asJson?.map fun json => .text json.text
  | "json_array", items => (items.mapM SqlValue.asJson?).map fun items => .text (LooseJson.array items).text
  | "json_object", items => (SqlValue.members? items).map fun fields => .text (LooseJson.object fields).text
  | "json_extract", v :: path :: paths => jsonExtract? false LooseJson.sqlValue v (path :: paths)
  | "->>", [v, path] => jsonExtract? true LooseJson.sqlValue v [path]
  | "->", [v, path] => jsonExtract? true (fun json => .text json.text) v [path]
  | "json_type", v :: path => jsonAsk? (fun json => .text json.typeName) v path
  | "json_array_length", v :: path =>
    jsonAsk? (fun json => match json with
      | .array items => .integer items.length
      | _ => .integer 0) v path
  | "json_insert", v :: rest | "json_replace", v :: rest | "json_set", v :: rest =>
    if rest.length % 2 = 0 then jsonChange? v (pairs rest) else none
  | "json_remove", v :: paths => jsonChange? v ((paths.takeWhile fun path => !path.isNull).map (·, none))
  | "json_patch", [v, patch] => do
    match ← v.json? with
    | none => return .null
    | some _ =>
      discard patch.json?
      return .null
  | _, _ => some .null

end SqlFunction

end Orchestra
