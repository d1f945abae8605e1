import Orchestra.Json.Reader
import Orchestra.Text

namespace Orchestra

namespace BytePath

/-- The bytes of a text, each as a character. -/
def ofText (text : String) : String := String.ofList (text.toUTF8.toList.map fun b => Char.ofNat b.toNat)

def text? (path : String) : Option String :=
  String.fromUTF8? ⟨(path.toList.map fun c => c.toNat.toUInt8).toArray⟩

end BytePath

inductive DatabaseAccess where
  | readOnly
  | existing
  | creating
  | inMemory
deriving DecidableEq, Repr

namespace DatabaseAccess

def ofWord? : String → Option DatabaseAccess
  | "ro" => some readOnly
  | "rw" => some existing
  | "rwc" => some creating
  | "memory" => some inMemory
  | _ => none

/-- How much an access allows. -/
def reach : DatabaseAccess → Nat
  | readOnly => 0
  | existing => 1
  | creating => 2
  | inMemory => 3

/-- Changes one access to another, which may not reach further unless it keeps to memory. -/
def narrow? (old new : DatabaseAccess) : Option DatabaseAccess :=
  if new = inMemory ∨ new.reach ≤ old.reach then some new else none

end DatabaseAccess

inductive DatabaseLocking where
  | usual
  /-- Nothing is done. -/
  | omitted
  /-- A directory beside the file is the lock. -/
  | directory
  /-- The file belongs to one program. -/
  | exclusive
deriving DecidableEq, Repr

/-- A database and what may be done with it. A frozen one is not written. Each character of a path stands for a
byte. -/
structure DatabaseLocation where
  file : Option String
  access : DatabaseAccess := .creating
  frozen : Bool := false
  locking : DatabaseLocking := .usual
  unlocked : Bool := false
  /-- What a new file takes its permissions from; it has to be there in any case. -/
  model : Option String := none
  indexReadOnly : Bool := false
  /-- The size of what a disk writes at once. -/
  sectorSize : Nat := 512
deriving DecidableEq, Repr

/-- A `file:` address: a file, and parameters in order. Each character stands for a byte. -/
structure DatabaseAddress where
  file : String
  parameters : List (String × String)
deriving DecidableEq, Repr

namespace DatabaseAddress

def escaped? (a b : Char) : Option Nat :=
  match JsonReader.hexDigit? a, JsonReader.hexDigit? b with
  | some high, some low => some (high * 16 + low)
  | _, _ => none

/-- Replaces escapes by their bytes. What follows an escape for zero does not count. -/
def unescape : List Char → List Char
  | '%' :: a :: b :: rest =>
    match escaped? a b with
    | some 0 => []
    | some byte => Char.ofNat byte :: unescape rest
    | none => '%' :: unescape (a :: b :: rest)
  | c :: rest => c :: unescape rest
  | [] => []

def isHost (name : List Char) : Bool := name.isEmpty || String.ofList name = "localhost"

/-- Leaves out the name of the host, which may be missing, empty or that of the local one. -/
def skipHost? : List Char → Option (List Char)
  | '/' :: '/' :: rest =>
    if isHost (rest.takeWhile (· ≠ '/')) then some (rest.dropWhile (· ≠ '/')) else none
  | cs => some cs

/-- A parameter; one without a name does not count. -/
def parameter? (cs : List Char) : Option (String × String) :=
  let name := unescape (cs.takeWhile (· ≠ '='))
  let value := unescape ((cs.dropWhile (· ≠ '=')).drop 1)
  if name.isEmpty then none else some (String.ofList name, String.ofList value)

/-- The address that follows `file:`. A number sign ends it. -/
def read? (cs : List Char) : Option DatabaseAddress :=
  (skipHost? cs).map fun cs =>
    let cs := cs.takeWhile (· ≠ '#')
    let query := (cs.dropWhile (· ≠ '?')).drop 1
    { file := String.ofList (unescape (cs.takeWhile (· ≠ '?')))
      parameters := (splitBy '&' query).filterMap parameter? }

def access? (address : DatabaseAddress) : Option DatabaseAccess :=
  address.parameters.foldlM (fun access (name, value) =>
    if name = "mode" then (DatabaseAccess.ofWord? value).bind access.narrow? else some access) .creating

def lockingOf? : String → Option DatabaseLocking
  | "unix" => some .usual
  | "unix-none" => some .omitted
  | "unix-dotfile" => some .directory
  | "unix-excl" => some .exclusive
  | _ => none

def memoryKeeper : String := "memdb"

def keeper (address : DatabaseAddress) : String :=
  ((address.parameters.filter (·.1 = "vfs")).getLast?.map Prod.snd).getD "unix"

def isCacheMode (value : String) : Bool := value = "shared" || value = "private"

/-- The number of hexadecimal digits at the front of a text, if it has at most 31 bits. -/
def hexNumber? (cs : List Char) : Option Nat :=
  let digits := (cs.takeWhile fun c => (JsonReader.hexDigit? c).isSome).dropWhile (· = '0')
  let n := digits.foldl (fun n c => n * 16 + (JsonReader.hexDigit? c).getD 0) 0
  if n < Nat.pow 2 31 then some n else none

/-- The number of decimal digits at the front of a text, if it has at most 31 bits. -/
def decimalNumber? (cs : List Char) : Option Nat :=
  let n := (cs.takeWhile Char.isDigit).foldl (fun n c => n * 10 + (c.toNat - '0'.toNat)) 0
  if n < Nat.pow 2 31 then some n else none

/-- The number at the front of a text, which may be hexadecimal. -/
def number? : List Char → Option Nat
  | '0' :: x :: c :: rest =>
    if (x = 'x' ∨ x = 'X') ∧ (JsonReader.hexDigit? c).isSome then hexNumber? (c :: rest)
    else decimalNumber? ('0' :: x :: c :: rest)
  | cs => decimalNumber? cs

/-- What a text says to a question, if anything. A number says yes if one of its last eight bits is set. -/
def truth? (value : String) : Option Bool :=
  if value.toList.head?.any Char.isDigit then some (((number? value.toList).getD 0) % 256 ≠ 0)
  else
    let word := String.ofList (value.toList.map Char.toLower)
    if ["on", "yes", "true"].contains word then some true
    else if ["off", "no", "false"].contains word then some false
    else none

def affirms (address : DatabaseAddress) (name : String) (fallback : Bool := false) : Bool :=
  ((address.parameters.lookup name).bind truth?).getD fallback

def location? (address : DatabaseAddress) : Option DatabaseLocation := do
  let access ← address.access?
  if ¬ (address.parameters.all fun (name, value) => name ≠ "cache" || isCacheMode value) then none
  else
    let inMemory := address.keeper = memoryKeeper
    let locking ← if inMemory then some .usual else lockingOf? address.keeper
    if inMemory ∨ access = .inMemory ∨ address.file = "" ∨ address.file = ":memory:" then
      return { file := none, access }
    else return {
      file := some address.file
      access
      frozen := address.affirms "immutable"
      -- A file that is only read never belongs to one program.
      locking := if access = .readOnly ∧ locking = .exclusive then .usual else locking
      unlocked := address.affirms "nolock"
      model := address.parameters.lookup "modeof"
      indexReadOnly := address.affirms "readonly_shm"
      sectorSize := if address.affirms "psow" true then 512 else 4096 }

end DatabaseAddress

namespace DatabaseLocation

def read? (path : String) : Option DatabaseLocation :=
  match (BytePath.ofText path).toList with
  | 'f' :: 'i' :: 'l' :: 'e' :: ':' :: rest => (DatabaseAddress.read? rest).bind (·.location?)
  | _ =>
    if path.toList.contains '\x00' then none
    else some { file := if path = "" ∨ path = ":memory:" then none else some (BytePath.ofText path) }

def mayCreate (location : DatabaseLocation) : Bool := location.access = .creating

def mayWrite (location : DatabaseLocation) : Bool := location.access ≠ .readOnly && !location.frozen

end DatabaseLocation

end Orchestra
