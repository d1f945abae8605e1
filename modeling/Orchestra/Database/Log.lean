import Orchestra.Database.Journal

namespace Orchestra

open Octets

structure LogChecksum where
  first : Nat
  second : Nat
deriving DecidableEq, Repr

/-- What a log holds, up to the last complete change: the latest content of pages and how many pages there are. -/
structure LogState where
  database : ByteArray
  pageCount : Nat := 0

namespace DatabaseLog

def headSize : Nat := 32

def frameHeadSize : Nat := 24

/-- A number of four bytes, in the order that the log uses for its checksum. -/
def word (bigEndian : Bool) (content : ByteArray) (offset : Nat) : Nat :=
  if bigEndian then natAt content offset 4
  else byteAt content offset + byteAt content (offset + 1) * Nat.pow 2 8 + byteAt content (offset + 2) * Nat.pow 2 16 +
    byteAt content (offset + 3) * Nat.pow 2 24

def checksum (bigEndian : Bool) (content : ByteArray) (start pairs : Nat) (seed : LogChecksum) : LogChecksum :=
  (List.range pairs).foldl (fun sum i =>
    let first := (sum.first + word bigEndian content (start + 8 * i) + sum.second) % Nat.pow 2 32
    ⟨first, (sum.second + word bigEndian content (start + 8 * i + 4) + first) % Nat.pow 2 32⟩) seed

def stated (content : ByteArray) (offset : Nat) : LogChecksum := ⟨natAt content offset 4, natAt content (offset + 4) 4⟩

def bigEndian (log : ByteArray) : Bool := natAt log 0 4 % 2 = 1

def pageSize (log : ByteArray) : Nat := natAt log 8 4

def isSound (log : ByteArray) : Bool :=
  headSize < log.size && natAt log 0 4 / 2 * 2 = 0x377F0682 && DatabaseImage.pageSizes.contains (pageSize log) &&
    checksum (bigEndian log) log 0 3 ⟨0, 0⟩ = stated log 24

def version : Nat := 3007000

/-- The change in the making and the last complete one, after some frames. A frame that is not sound ends the
log. -/
def frames (log : ByteArray) (sum : LogChecksum) (offset : Nat) (current complete : LogState) : Nat → LogState
  | 0 => complete
  | fuel + 1 =>
    let data := offset + frameHeadSize
    let number := natAt log offset 4
    let count := natAt log (offset + 4) 4
    let next := checksum (bigEndian log) log data (pageSize log / 8) (checksum (bigEndian log) log offset 1 sum)
    if log.size < data + pageSize log ∨ number = 0 ∨ next ≠ stated log (offset + 16) ∨
        natAt log (offset + 8) 8 ≠ natAt log 16 8 then complete
    else
      let page := log.extract data (data + pageSize log)
      let database := DatabaseJournal.overwritten current.database ((number - 1) * pageSize log) page
      let current := { current with database }
      let complete := if count = 0 then complete else { database, pageCount := count }
      frames log next (data + pageSize log) current complete fuel

/-- The database with the pages of a log, unless the log is of another version. -/
def replay? (log database : ByteArray) : Option ByteArray :=
  if ¬ isSound log then some database
  else if natAt log 4 4 ≠ version then none
  else
    let state := frames log (stated log 24) headSize ⟨database, 0⟩ ⟨database, 0⟩ log.size
    some (if state.pageCount = 0 then database
      else DatabaseJournal.resized state.database (state.pageCount * pageSize log))

end DatabaseLog

end Orchestra
