import Orchestra.Sql.JsonFunction
import Orchestra.Sql.Likeness

namespace Orchestra

namespace SqlFunction

/-- The number at the front of a text, and what follows, if there are as many digits and it is in range. -/
def twoDigits? (width low high : Nat) (cs : List Char) : Option (List Char) := do
  let n ← Literal.digits? (cs.take width)
  guard ((cs.take width).length = width ∧ low ≤ n ∧ n ≤ high)
  return cs.drop width

def after? (c : Char) : List Char → Option (List Char)
  | d :: rest => if d = c then some rest else none
  | [] => none

def isClock (cs : List Char) : Bool :=
  match do twoDigits? 2 0 59 (← after? ':' (← twoDigits? 2 0 24 cs)) with
  | none => false
  | some rest =>
    match (after? ':' rest).bind (twoDigits? 2 0 59) with
    | none => rest.all SqlValue.isBlank
    | some rest =>
      match rest with
      | '.' :: rest => (rest.dropWhile Char.isDigit).all fun c => SqlValue.isBlank c || c = 'Z' || c = 'z'
      | rest => rest.all fun c => SqlValue.isBlank c || c = 'Z' || c = 'z'

def isMoment (value : SqlValue) : Bool :=
  match value with
  | .null => false
  | .integer _ | .real _ => true
  | value =>
    let cs := (value.text?.getD "").toList
    let day : Option (List Char) := do
      let rest ← after? '-' (← twoDigits? 4 0 9999 (if cs.head? = some '-' then cs.tail else cs))
      twoDigits? 2 1 31 (← after? '-' (← twoDigits? 2 1 12 rest))
    match day with
    | some rest => rest.isEmpty || isClock (rest.dropWhile fun c => SqlValue.isBlank c || c = 'T')
    | none => isClock cs || (SqlValue.numberOf (String.ofList cs)).2

def isNow (value : SqlValue) : Bool :=
  value.text?.any fun text => ["now", "subsec", "subsecond"].contains (text.map Char.toLower)

/-- Whether a value makes a moment one of some place. -/
def isZone (value : SqlValue) : Bool :=
  value.text?.any fun text => ["localtime", "utc"].contains (text.map Char.toLower)

/-- Whether a moment is the same at all times and places. -/
def isLasting : List SqlValue → Bool
  | [] => false
  | value :: shifts => !isNow value && !(isMoment value && shifts.any isZone)

/-- The number that the last 32 bits of a value as a whole number are. -/
def narrow (value : SqlValue) : Int :=
  let n := value.whole % Nat.pow 2 32
  if n < Nat.pow 2 31 then n else n - Nat.pow 2 32

/-- A part of a text, from a place that counts from one or from the end. -/
def part (cs : List Char) (start : Int) (length : Option Int) : List Char :=
  let count : Int := cs.length
  let first := if 0 < start then start - 1 else if start = 0 then -1 else count + start
  let (first, last) : Int × Int := match length with
    | none => (first, count)
    | some n => if n < 0 then (first + n, first) else (first, first + n)
  (cs.take last.toNat).drop first.toNat

def trimmed (left right : Bool) (content : String) (set : String) : String :=
  let inSet (c : Char) : Bool := set.toList.contains c
  let cs := if left then content.toList.dropWhile inSet else content.toList
  String.ofList (if right then (cs.reverse.dropWhile inSet).reverse else cs)

/-- Where a text occurs first in another one, counted from one. It is zero if it does not. -/
def position (part : List Char) : Nat → List Char → Nat
  | n, [] => if part.isEmpty then n + 1 else 0
  | n, c :: rest => if part.isPrefixOf (c :: rest) then n + 1 else position part (n + 1) rest

/-- Puts a text in the place of another one. There are at most as many steps as the fuel. -/
def replaced (part by_text : List Char) : Nat → List Char → List Char
  | _, [] => []
  | 0, cs => cs
  | fuel + 1, c :: rest =>
    if part.isPrefixOf (c :: rest) then by_text ++ replaced part by_text fuel ((c :: rest).drop part.length)
    else c :: replaced part by_text fuel rest

/-- The least value, or the greatest one. There is none if one is missing. -/
def extreme (collation : String) (wanted : Ordering) : List SqlValue → SqlValue
  | [] => .null
  | first :: rest =>
    if (first :: rest).any SqlValue.isNull then .null
    else rest.foldl (fun best v => if SqlValue.order collation v best = wanted then v else best) first

def patternBound : Nat := 50000

def sizeBound : Int := Nat.pow 10 9

def likeness? (name : String) (pattern content : SqlValue) (escape : Option SqlValue) : Option SqlValue := do
  guard ((pattern.text?.getD "").utf8ByteSize ≤ patternBound)
  let escape ← match escape with
    | none => some (some none)
    | some value =>
      match value.text?.map String.toList with
      | none => some none
      | some [c] => some (some (some c))
      | some _ => none
  match escape, pattern.text?, content.text? with
  | some escape, some pattern, some content =>
    return .ofBool (if name = "glob" then Likeness.glob pattern content else Likeness.like escape pattern content)
  | _, _, _ => return .null

/-- Applies a function to the texts of values. It has no value if one of them is missing. -/
def onTexts (arguments : List SqlValue) (f : List String → SqlValue) : Option SqlValue :=
  some ((arguments.mapM SqlValue.text?).elim .null f)

def value? (name collation : String) (arguments : List SqlValue) : Option SqlValue :=
  match name, arguments with
  | "abs", [v] =>
    match v with
    | .null => some .null
    | .integer n => if n = -(Nat.pow 2 63) then none else some (.integer n.natAbs)
    | v =>
      match v.double with
      | .finite x => some (.real (.finite { x with negative := false }))
      | _ => some (.real (.infinite false))
  | "likely", v :: _ | "unlikely", v :: _ | "likelihood", v :: _ => some v
  | "typeof", [v] =>
    some (.text (match v with
      | .null => "null"
      | .integer _ => "integer"
      | .real _ => "real"
      | .text _ => "text"
      | .blob _ => "blob"))
  | "length", [.blob content] => some (.integer content.size)
  | "length", vs => onTexts vs fun texts => .integer (texts.headD "").length
  | "octet_length", [.blob content] => some (.integer content.size)
  | "octet_length", vs => onTexts vs fun texts => .integer (texts.headD "").utf8ByteSize
  | "lower", vs => onTexts vs fun texts => .text ((texts.headD "").map Char.toLower)
  | "upper", vs => onTexts vs fun texts => .text ((texts.headD "").map Char.toUpper)
  | "trim", vs => onTexts vs fun texts => .text (trimmed true true (texts.headD "") (texts[1]?.getD " "))
  | "ltrim", vs => onTexts vs fun texts => .text (trimmed true false (texts.headD "") (texts[1]?.getD " "))
  | "rtrim", vs => onTexts vs fun texts => .text (trimmed false true (texts.headD "") (texts[1]?.getD " "))
  | "substr", v :: place | "substring", v :: place =>
    if place.any SqlValue.isNull then some .null
    else match v, place with
      | .blob _, _ | _, [] => some .null
      | v, start :: length =>
        onTexts [v] fun texts =>
          .text (String.ofList (part (texts.headD "").toList (narrow start) (length.head?.map narrow)))
  | "instr", [v, w] => onTexts [w, v] fun texts => .integer (position (texts.headD "").toList 0 (texts[1]?.getD "").toList)
  | "replace", [v, w, by_value] =>
    onTexts [v, w, by_value] fun texts =>
      match texts.map String.toList with
      | [cs, part, by_text] => .text (String.ofList (if part.isEmpty then cs else replaced part by_text cs.length cs))
      | _ => .null
  | "nullif", [v, w] =>
    some (if ¬ v.isNull ∧ ¬ w.isNull ∧ SqlValue.order collation v w = .eq then .null else v)
  | "max", vs => some (extreme collation .gt vs)
  | "min", vs => some (extreme collation .lt vs)
  | "concat", vs => some (.text (String.join (vs.filterMap SqlValue.text?)))
  | "concat_ws", separator :: vs =>
    onTexts [separator] fun texts =>
      .text ((vs.filterMap SqlValue.text?).foldl (fun found text =>
        if found = "" then text else found ++ texts.headD "" ++ text) "")
  | "like", pattern :: content :: escape => likeness? "like" pattern content escape.head?
  | "glob", [pattern, content] => likeness? "glob" pattern content none
  | "zeroblob", [size] => if sizeBound < size.whole then none else some .null
  | "date", vs | "time", vs | "datetime", vs | "julianday", vs | "unixepoch", vs =>
    if isLasting vs then some .null else none
  | "strftime", _ :: vs => if isLasting vs then some .null else none
  | "timediff", [v, w] => if isNow v || (isMoment v && isNow w) then none else some .null
  | name, vs =>
    if name = "jsonb" ∨ name.startsWith "jsonb_" then jsonValue? ("json" ++ (name.drop 5).toString) vs
    else jsonValue? name vs

end SqlFunction

end Orchestra
