import Orchestra.Database.Journal
import Orchestra.Database.Location
import Orchestra.Database.Log
import Orchestra.File.Tree

namespace Orchestra

inductive DatabaseCompanion where
  | journal
  | log
  | index
  | lock
deriving DecidableEq, Repr

/-- What the name of a database is followed by in the name of a companion. -/
def DatabaseCompanion.suffix : DatabaseCompanion → String
  | journal => "-journal"
  | log => "-wal"
  | index => "-shm"
  | lock => ".lock"

structure DatabaseFiles where
  content : ByteArray
  journal : Option FileNode := none
  log : Option FileNode := none
  index : Option FileNode := none
  lock : Option FileNode := none

inductive CompanionStep where
  | remove (companion : DatabaseCompanion)
  | make (companion : DatabaseCompanion)
deriving DecidableEq, Repr

/-- A database that is being opened. It cannot be without content. -/
structure DatabaseOpening where
  content : Option ByteArray
  mayWrite : Bool := false
  steps : List CompanionStep := []
  /-- What goes when the database is closed. -/
  passing : List DatabaseCompanion := []
  logged : Bool := false

namespace DatabaseOpening

open Octets

/-- A file with at most one byte counts as an empty database. -/
def isBlank (content : ByteArray) : Bool := content.size ≤ 1

/-- An empty file counts as none. -/
def isPresent : Option FileNode → Bool
  | none => false
  | some (.file content) => 0 < content.size
  | some (.directory _) => true

def isDirectory : Option FileNode → Bool
  | some (.directory _) => true
  | _ => false

def content? : Option FileNode → Option ByteArray
  | some (.file content) => some content
  | _ => none

/-- The size of pages that a head tells, if it tells one. -/
def pageSizeOf (content : ByteArray) : Nat :=
  let size := DatabaseImage.pageSizeIn content
  if DatabaseImage.pageSizes.contains size then size else 4096

/-- The content after a journal in force is played back, and what becomes of the journal. There is no content if that
is not possible. A journal with a leader that is gone is only removed. -/
def settle (location : DatabaseLocation) (files : DatabaseFiles) (leaderGone : Bool) : DatabaseOpening :=
  let journal := (content? files.journal).getD ByteArray.empty
  let content := files.content
  if location.locking = .directory ∨ ¬ isPresent files.journal then { content }
  else if isBlank content then
    { content, steps := if location.access = .readOnly ∨ isDirectory files.journal then [] else [.remove .journal] }
  else if isDirectory files.journal then { content := none }
  else if ¬ DatabaseJournal.isHot journal then { content }
  else if location.access = .readOnly then { content := none }
  else
    let settled :=
      if leaderGone then content
      else DatabaseJournal.rollBack journal content (pageSizeOf content) location.sectorSize
    { content := settled, steps := [.remove .journal] }

def mayLog (location : DatabaseLocation) : Bool :=
  !location.unlocked && (location.locking = .usual || location.locking = .exclusive)

def wantsLog (content : ByteArray) : Bool :=
  content.toList.take DatabaseImage.magic.size = DatabaseImage.magic.toList && byteAt content 19 = 2

/-- Reads a log, which is made if there is none. There is an index beside it, unless the file belongs to one
program. -/
def openLog (location : DatabaseLocation) (files : DatabaseFiles) (content : ByteArray) : DatabaseOpening :=
  if ¬ mayLog location ∨ isDirectory files.log then { content := none }
  else
    let made := if files.log.isNone then [CompanionStep.make .log] else []
    let indexed := location.locking ≠ .exclusive
    let readOnly := indexed && (location.indexReadOnly || isDirectory files.index)
    let lasting := location.access = .readOnly || readOnly
    let log := (content? files.log).getD ByteArray.empty
    if indexed ∧ location.indexReadOnly ∧ files.index.isNone then { content := none, steps := made }
    else
      let content := DatabaseLog.replay? log content
      { content
        mayWrite := !lasting
        steps := made ++ if indexed ∧ files.index.isNone then [.make .index] else []
        passing := if lasting ∨ content.isNone then [] else .log :: if indexed then [.index] else []
        logged := true }

def ofFiles (location : DatabaseLocation) (files : DatabaseFiles) (leaderGone : Bool) : DatabaseOpening :=
  if location.frozen then { content := files.content }
  else if location.locking = .directory ∧ files.lock.isSome then { content := none }
  else
    let settled := settle location files leaderGone
    match settled.content with
    | none => settled
    | some content =>
      if isBlank content ∧ isPresent files.log then
        if isDirectory files.log then { settled with content := none }
        else { settled with
          mayWrite := location.access ≠ .readOnly && !isDirectory files.journal
          steps := settled.steps ++ [.remove .log] }
      else if ¬ isBlank content ∧ (isPresent files.log ∨ wantsLog content) then
        let opening := openLog location files content
        { opening with steps := settled.steps ++ opening.steps }
      else { settled with mayWrite := location.access ≠ .readOnly && !isDirectory files.journal }

end DatabaseOpening

end Orchestra
