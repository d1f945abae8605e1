namespace Orchestra

namespace Calendar

def millisPerDay : Int := 86400000

/-- The first and the last moment that have a text, in milliseconds since the start of 1970. -/
def firstMoment : Int := -8334601228800000

def lastMoment : Int := 8210266876799999

/-- A date of the civil calendar. -/
structure Date where
  year : Int
  month : Nat
  day : Nat
deriving DecidableEq, Repr

/-- The date this many days after the start of 1970. Years are counted from March, so that the leap day
comes last, in cycles of 400 years. -/
def Date.ofDays (days : Int) : Date :=
  let shifted := days + 719468
  let cycle := shifted / 146097
  let dayOfCycle := (shifted % 146097).toNat
  let yearOfCycle := (dayOfCycle - dayOfCycle / 1460 + dayOfCycle / 36524 - dayOfCycle / 146096) / 365
  let dayOfYear := dayOfCycle - (365 * yearOfCycle + yearOfCycle / 4 - yearOfCycle / 100)
  let march := (5 * dayOfYear + 2) / 153
  let day := dayOfYear - (153 * march + 2) / 5 + 1
  let month := if march < 10 then march + 3 else march - 9
  ⟨yearOfCycle + cycle * 400 + (if month ≤ 2 then 1 else 0), month, day⟩

/-- Decimal digits, filled up with zeros in front. -/
def padded (width n : Nat) : String :=
  let digits := Nat.toDigits 10 n
  String.ofList (List.replicate (width - digits.length) '0' ++ digits)

/-- Years from 0 to 9999 have four digits, all others a sign and at least four. -/
def yearText (year : Int) : String :=
  if 0 ≤ year ∧ year ≤ 9999 then padded 4 year.toNat
  else (if year < 0 then "-" else "+") ++ padded 4 year.natAbs

/-- The text of a moment in UTC; milliseconds are written only if there are any. -/
def text? (millis : Int) : Option String :=
  if millis < firstMoment ∨ lastMoment < millis then none
  else
    let date := Date.ofDays (millis / millisPerDay)
    let rest := (millis % millisPerDay).toNat
    let seconds := rest / 1000
    let fraction := if rest % 1000 = 0 then "" else "." ++ padded 3 (rest % 1000)
    some (yearText date.year ++ "-" ++ padded 2 date.month ++ "-" ++ padded 2 date.day ++ "T" ++
      padded 2 (seconds / 3600) ++ ":" ++ padded 2 (seconds / 60 % 60) ++ ":" ++ padded 2 (seconds % 60) ++
      fraction ++ "+00:00")

end Calendar

end Orchestra
