import Orchestra.Audit
import Orchestra.Database.Opening
import Orchestra.Database.Provision
import Orchestra.File.Host
import Orchestra.File.Name

namespace Orchestra

/-- A database that is open for records. Without a file, records are not kept. -/
structure AuditDatabase where
  /-- The path of the file that keeps the records. -/
  file : Option String := none
  /-- Files that go when records are added. -/
  replaced : List String := []
  /-- Files that go when the database is closed. -/
  passing : List String := []
deriving DecidableEq, Repr

namespace AuditDatabase

def records : IndexedTable where
  table := "audit_records"
  tableText := "CREATE TABLE audit_records (
                id TEXT PRIMARY KEY,
                kind TEXT NOT NULL,
                payload TEXT NOT NULL,
                created_at INTEGER NOT NULL
            )"
  index := "idx_audit_kind"
  indexText := "CREATE INDEX idx_audit_kind ON audit_records(kind)"
  column := "kind"

/-- Whether something has to be done for the table of records to be in a database, if it can be there. It may not be
possible to do it even if the database is opened for writing. -/
def provides? (content : ByteArray) (forWriting mayWrite : Bool) : Option Bool :=
  if DatabaseOpening.isBlank content then if mayWrite then some true else none
  else
    (DatabaseImage.ofContent? content).bind fun image =>
      (DatabaseSchema.ofImage? image forWriting).bind fun schema =>
        match schema.provision? records with
        | none => none
        | some .nothing => some false
        | some provision => if mayWrite ∧ image.allows schema records provision then some true else none

/-- The number of bytes that the whole path of a journal may have. -/
def pathBound : Nat := 512

/-- The number of bytes in a path that leads along names from a directory whose path has this many bytes. -/
def pathLength (base : Nat) (names : List String) : Nat := (names.map fun name => name.length + 1).foldl (· + ·) base

/-- Adds a name to the names along a path. -/
def step? (base : Nat) (names : List String) (name : String) : Option (List String) :=
  if name = ".." then some (FileName.upwards names)
  else if name.length ≤ FileTree.nameBound ∧ pathLength base (names ++ [name]) < pathBound then some (names ++ [name])
  else none

/-- The path of a file without detours, if it is not too long. Each character stands for a byte. -/
def directPath? (rootLength : Nat) (path : String) : Option String := do
  let (base, start) := if path.startsWith "/" then (0, "/") else (rootLength, "")
  let names ← (FileName.parts path).foldlM (step? base) []
  if pathLength base names + DatabaseCompanion.journal.suffix.length ≤ pathBound then
    some (start ++ "/".intercalate names)
  else none

def hasName (path : String) (companion : DatabaseCompanion) : Bool :=
  (FileName.last? path).all fun name => FileTree.isName (name ++ companion.suffix)

variable {m : Type → Type} [Monad m]

/-- The content of the database at a direct path, which is made if that is allowed. -/
def content? (host : Host m) (location : DatabaseLocation) (path : String) : m (Option ByteArray) := do
  match ← host.look path with
  | some (.file content) => return some content
  | some (.directory _) => return none
  | none =>
    if ¬ location.mayCreate then return none
    else if ← host.makeFile path then return some ByteArray.empty
    else return none

def leaderGone (host : Host m) (journal : Option FileNode) : m Bool := do
  match (DatabaseOpening.content? journal).bind DatabaseJournal.leader? with
  | none => return false
  | some name =>
    match String.fromUTF8? name with
    | none => return true
    | some name => return !DatabaseOpening.isPresent (← host.look name)

/-- Takes a step on a companion of the database at a path, and answers whether that was possible. -/
def take (host : Host m) (path : String) : CompanionStep → m Bool
  | .remove companion => do
    host.remove (path ++ companion.suffix)
    return true
  | .make companion => host.makeFile (path ++ companion.suffix)

def takeAll (host : Host m) (path : String) : List CompanionStep → m Bool
  | [] => return true
  | step :: rest => do
    if ← take host path step then takeAll host path rest else return false

def closeFile (host : Host m) (path : String) (passing : List DatabaseCompanion) : m Unit :=
  passing.forM fun companion => host.remove (path ++ companion.suffix)

def openFile? (host : Host m) (location : DatabaseLocation) (path : String) : m (Option AuditDatabase) := do
  match ← content? host location path with
  | none => return none
  | some content =>
    let journal ← host.look (path ++ DatabaseCompanion.journal.suffix)
    let log ← host.look (path ++ DatabaseCompanion.log.suffix)
    let index ← host.look (path ++ DatabaseCompanion.index.suffix)
    let lock ← host.look (path ++ DatabaseCompanion.lock.suffix)
    let gone ← leaderGone host journal
    let opening := DatabaseOpening.ofFiles location { content, journal, log, index, lock } gone
    if ¬ (← takeAll host path opening.steps) then
      return none
    let mayWrite := opening.mayWrite && (opening.logged || hasName path .journal)
    match opening.content.bind (provides? · location.mayWrite mayWrite) with
    | none =>
      closeFile host path opening.passing
      return none
    | some changed =>
      let replaced := if mayWrite ∧ ¬ opening.logged then [path ++ DatabaseCompanion.journal.suffix] else []
      if changed then replaced.forM host.remove
      return some {
        file := if mayWrite then some path else none
        replaced
        passing := opening.passing.map fun companion => path ++ companion.suffix }

/-- Opens the database in a file whose name is no text, which cannot be there yet. -/
def openUnseen? (host : Host m) (location : DatabaseLocation) (path : String) : m (Option AuditDatabase) := do
  let parent := FileName.parent path
  let around ← (BytePath.text? (if parent = "" then "." else parent)).elim (pure none) host.look
  if location.mayCreate ∧ location.mayWrite ∧ DatabaseOpening.isDirectory around then return some {} else return none

/-- Whether what a new file takes its permissions from is there. -/
def hasModel (host : Host m) (location : DatabaseLocation) : m Bool := do
  match location.model with
  | none => return true
  | some path =>
    let found ← (BytePath.text? path).elim (pure none) host.look
    return found.isSome

/-- Opens the database at a location. One without a file is made anew each time. -/
def openAt? (host : Host m) (location : DatabaseLocation) : m (Option AuditDatabase) := do
  match location.file with
  | none => return if location.mayWrite then some {} else none
  | some path =>
    match directPath? (← host.rootLength) path with
    | none => return none
    | some path =>
      if ¬ (← hasModel host location) then return none
      else match BytePath.text? path with
        | none => openUnseen? host location path
        | some path => openFile? host location path

/-- Opens the database that a path stands for, after making the directories around that path. -/
def open? (host : Host m) (path : String) : m (Option AuditDatabase) := do
  let parent := FileName.parent path
  if parent ≠ "" then
    unless ← host.makeDirectory parent do return none
  match DatabaseLocation.read? path with
  | none => return none
  | some location => openAt? host location

def line (entry : AuditEntry) : String :=
  (Json.object [("kind", .string entry.kind), ("payload", entry.payload)]).compact

def add (host : Host m) (database : AuditDatabase) (entries : List AuditEntry) : m Unit := do
  if let some path := database.file then host.keep path (entries.map line)
  unless entries.isEmpty do database.replaced.forM host.remove

def close (host : Host m) (database : AuditDatabase) : m Unit := database.passing.forM host.remove

end AuditDatabase

end Orchestra
