import Orchestra.Calendar
import Orchestra.Number.Literal

namespace Orchestra

namespace TomlMoment

/-- Exactly this many decimal digits. -/
def fixed? (n : Nat) (cs : List Char) : Option (Nat × List Char) :=
  if (cs.take n).length = n then (Literal.digits? (cs.take n)).map (·, cs.drop n) else none

def symbol? (c : Char) : List Char → Option (List Char)
  | d :: rest => if c = d then some rest else none
  | [] => none

def isLeap (year : Nat) : Bool := year % 4 = 0 && (year % 100 ≠ 0 || year % 400 = 0)

def daysIn (year month : Nat) : Nat :=
  if month = 2 then (if isLeap year then 29 else 28)
  else if month = 4 ∨ month = 6 ∨ month = 9 ∨ month = 11 then 30
  else 31

/-- A date, as its text. -/
def date? (cs : List Char) : Option (String × List Char) := do
  let (year, cs) ← fixed? 4 cs
  let cs ← symbol? '-' cs
  let (month, cs) ← fixed? 2 cs
  let cs ← symbol? '-' cs
  let (day, cs) ← fixed? 2 cs
  if 1 ≤ month ∧ month ≤ 12 ∧ 1 ≤ day ∧ day ≤ daysIn year month then
    some (Calendar.padded 4 year ++ "-" ++ Calendar.padded 2 month ++ "-" ++ Calendar.padded 2 day, cs)
  else none

/-- The text of a fraction of a second: at most nine digits count, zeros at the end do not. -/
def fractionText (digits : List Char) : String :=
  let kept := ((digits.take 9).reverse.dropWhile (· = '0')).reverse
  if kept.isEmpty then "" else "." ++ String.ofList kept

/-- The fraction of a second, if there is one. -/
def subsecond? : List Char → Option (String × List Char)
  | '.' :: rest =>
    let digits := rest.takeWhile Char.isDigit
    if digits.isEmpty then none else some (fractionText digits, rest.dropWhile Char.isDigit)
  | cs => some ("", cs)

/-- A time of day, as its text. -/
def time? (cs : List Char) : Option (String × List Char) := do
  let (hour, cs) ← fixed? 2 cs
  let cs ← symbol? ':' cs
  let (minute, cs) ← fixed? 2 cs
  let cs ← symbol? ':' cs
  let (second, cs) ← fixed? 2 cs
  let (fraction, cs) ← subsecond? cs
  if hour ≤ 23 ∧ minute ≤ 59 ∧ second ≤ 60 then
    some (Calendar.padded 2 hour ++ ":" ++ Calendar.padded 2 minute ++ ":" ++ Calendar.padded 2 second ++
      fraction, cs)
  else none

/-- The text of an offset of this many minutes; there is no negative zero. -/
def offsetText (negative : Bool) (minutes : Nat) : String :=
  (if negative ∧ 0 < minutes then "-" else "+") ++ Calendar.padded 2 (minutes / 60) ++ ":" ++
    Calendar.padded 2 (minutes % 60)

/-- An offset from UTC, as its text, if there is one. -/
def offset? : List Char → Option (String × List Char)
  | [] => some ("", [])
  | c :: rest =>
    if c = 'Z' ∨ c = 'z' then some ("Z", rest)
    else if c = '+' ∨ c = '-' then do
      let (hours, cs) ← fixed? 2 rest
      let cs ← symbol? ':' cs
      let (minutes, cs) ← fixed? 2 cs
      if hours ≤ 23 ∧ minutes ≤ 59 then some (offsetText (c = '-') (hours * 60 + minutes), cs) else none
    else some ("", c :: rest)

/-- A time with an offset, after what sets it off from a date. -/
def timeAfterDate? : List Char → Option (String × List Char)
  | c :: rest =>
    if c = 'T' ∨ c = 't' ∨ c = ' ' then do
      let (time, after) ← time? rest
      let (offset, after) ← offset? after
      some (time ++ offset, after)
    else none
  | [] => none

/-- A date, a time, or both, as far as they go at the front of a document. -/
def first? (cs : List Char) : Option (String × List Char) :=
  match date? cs with
  | some (date, rest) =>
    match timeAfterDate? rest with
    | some (time, after) => some (date ++ "T" ++ time, after)
    | none => some (date, rest)
  | none => time? cs

/-- The moment that is the whole of a text. -/
def ofText? (text : String) : Option String :=
  let cs := text.toList
  let found :=
    if cs[2]? = some ':' then time? cs
    else match date? cs with
      | some (date, []) => some (date, [])
      | some (date, rest) => (timeAfterDate? rest).map fun (time, after) => (date ++ "T" ++ time, after)
      | none => none
  match found with
  | some (moment, []) => some moment
  | _ => none

end TomlMoment

end Orchestra
