import Orchestra.Database.Image

namespace Orchestra

open Octets

/-- A journal. The sizes are those of the database's pages and of the journal's heads. -/
structure DatabaseJournal where
  content : ByteArray
  pageSize : Nat
  headSize : Nat

/-- How far a journal has been read, and what the database is by then. -/
structure JournalProgress where
  database : ByteArray
  /-- The number of pages that the database had. -/
  pageCount : Nat
  offset : Nat
  seed : Nat

namespace DatabaseJournal

def magic : List UInt8 := [0xD9, 0xD5, 0x05, 0xF9, 0x20, 0xA1, 0x63, 0xD7]

def hasMagic (content : ByteArray) (offset : Nat) : Bool := (content.extract offset (offset + 8)).toList = magic

/-- A journal is in force if it does not start with zero. -/
def isHot (content : ByteArray) : Bool := byteAt content 0 ≠ 0

/-- The name of the file that a journal depends on. -/
def leader? (content : ByteArray) : Option ByteArray :=
  let stop := content.size - 16
  let length := natAt content stop 4
  if content.size < 16 ∨ ¬ hasMagic content (stop + 8) ∨ length = 0 ∨ 512 < length ∨ stop < length then none
  else
    let name := content.extract (stop - length) stop
    if (name.toList.map UInt8.toNat).foldl (· + ·) 0 % Nat.pow 2 32 = natAt content (stop + 4) 4 then some name else none

def isPowerOfTwo (n : Nat) : Bool := Nat.pow 2 n.log2 = n

/-- The checksum of a page counts one byte of two hundred, from the end. -/
def checksum (seed : Nat) (page : ByteArray) : Nat :=
  let bytes := (List.range ((page.size - 1) / 200)).map fun i => byteAt page (page.size - 200 * (i + 1))
  bytes.foldl (· + ·) seed % Nat.pow 2 32

/-- The size up to which content is filled up with zeros; beyond that, files are left short. -/
def fillBound : Nat := Nat.pow 2 24

def resized (content : ByteArray) (size : Nat) : ByteArray :=
  if size ≤ content.size then content.extract 0 size
  else if fillBound < size then content
  else DatabaseImage.filledUp content size

def overwritten (content : ByteArray) (offset : Nat) (part : ByteArray) : ByteArray :=
  if fillBound < offset then content
  else
    let content := if content.size < offset then DatabaseImage.filledUp content offset else content
    content.extract 0 offset ++ part ++ content.extract (offset + part.size) content.size

/-- A page after its number and before its checksum. There is none if the journal ends there or does not hold
what it should. -/
def page? (journal : DatabaseJournal) (progress : JournalProgress) : Option (Nat × ByteArray) :=
  let number := natAt journal.content progress.offset 4
  let start := progress.offset + 4
  let page := journal.content.extract start (start + journal.pageSize)
  let found := natAt journal.content (start + journal.pageSize) 4
  if journal.content.size < start + journal.pageSize ∨ number = 0 ∨
      number = Nat.pow 2 30 / journal.pageSize + 1 then none
  else if progress.pageCount < number then some (number, page)
  else if journal.content.size < start + journal.pageSize + 4 ∨ checksum progress.seed page ≠ found then none
  else some (number, page)

def putBack (journal : DatabaseJournal) : Nat → JournalProgress → JournalProgress × Bool
  | 0, progress => (progress, true)
  | count + 1, progress =>
    match journal.page? progress with
    | none => (progress, false)
    | some (number, page) =>
      putBack journal count { progress with
        offset := progress.offset + journal.pageSize + 8
        database :=
          if progress.pageCount < number then progress.database
          else overwritten progress.database ((number - 1) * journal.pageSize) page }

def nextHead (journal : DatabaseJournal) (offset : Nat) : Nat :=
  (offset + journal.headSize - 1) / journal.headSize * journal.headSize

def playBack (journal : DatabaseJournal) : Nat → JournalProgress → ByteArray
  | 0, progress => progress.database
  | fuel + 1, progress =>
    let head := journal.nextHead progress.offset
    let cut := 0 < head ∧ journal.content.size < head + journal.headSize
    if cut ∨ ¬ hasMagic journal.content head then progress.database
    else
      let stated := natAt journal.content (head + 8) 4
      let count :=
        if stated = Nat.pow 2 32 - 1 then (journal.content.size - journal.headSize) / (journal.pageSize + 8) else stated
      let pageCount := natAt journal.content (head + 16) 4
      let database :=
        if head = 0 then resized progress.database (pageCount * journal.pageSize) else progress.database
      let (progress, complete) := journal.putBack (min count journal.content.size)
        { database, pageCount := if head = 0 then pageCount else progress.pageCount
          offset := head + journal.headSize, seed := natAt journal.content (head + 12) 4 }
      if complete then playBack journal fuel progress else progress.database

/-- The database after a journal has taken back what it can. The heads are as large as the journal says, but there
has to be room for one of the given size. -/
def rollBack (journal database : ByteArray) (pageSize headSize : Nat) : ByteArray :=
  let statedHead := natAt journal 20 4
  let statedPage := natAt journal 24 4
  let page := if statedPage = 0 then pageSize else statedPage
  if journal.size < headSize ∨ ¬ hasMagic journal 0 ∨ page < 512 ∨ 65536 < page ∨ statedHead < 32 ∨
      65536 < statedHead ∨ ¬ isPowerOfTwo page ∨ ¬ isPowerOfTwo statedHead then database
  else playBack ⟨journal, page, statedHead⟩ journal.size ⟨database, 0, 0, 0⟩

end DatabaseJournal

end Orchestra
