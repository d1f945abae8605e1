import Orchestra.Database.Growth
import Orchestra.Database.Row

namespace Orchestra

open Octets

namespace DatabaseField

/-- The least width that a whole number fits, as a type and a number of bytes. -/
def integerType (n : Int) : Nat × Nat :=
  let fits (width : Nat) : Bool := -(Nat.pow 256 width / 2 : Nat) ≤ n && n < (Nat.pow 256 width / 2 : Nat)
  if n = 0 then (8, 0)
  else if n = 1 then (9, 0)
  else ([(1, 1), (2, 2), (3, 3), (4, 4), (5, 6)].find? fun entry => fits entry.2).getD (6, 8)

/-- The type of a field, and the bytes of its value. -/
def written : DatabaseField → Nat × ByteArray
  | .absent => (0, ByteArray.empty)
  | .integer n =>
    let (type, width) := integerType n
    (type, DatabaseImage.bytesOf width (n % (Nat.pow 256 width : Nat)).toNat)
  | .real x => (7, DatabaseImage.bytesOf 8 x.bits)
  | .text content => (13 + 2 * content.size, content)
  | .blob content => (12 + 2 * content.size, content)

def row (fields : List DatabaseField) : ByteArray :=
  let parts := fields.map written
  let types := parts.foldl (fun bytes part => bytes ++ varintBytes part.1) ByteArray.empty
  let size := types.size + 1
  let head := varintBytes (if size < 128 then size else size + 1) ++ types
  parts.foldl (fun bytes part => bytes ++ part.2) head

end DatabaseField

namespace DatabaseEdit

open DatabaseImage

def renamePage (parent source target : Nat) (use : PageUse) : DatabaseEdit Unit := do
  let image ← get
  guard (1 ≤ parent)
  if use = .morePayload then
    guard ((← getNat (image.pageStart parent) 4) = source)
    putNat (image.pageStart parent) 4 target
  else
    let kind ← image.node? parent
    let pointers := (image.cells parent kind).filterMap fun cell =>
      if use = .payload then if cell.held < cell.size then some (cell.offset + cell.width - 4) else none
      else some cell.offset
    let last := if use = .node then [image.nodeStart parent + 8] else []
    let pointer ← (pointers ++ last).find? fun pointer => natAt image.content pointer 4 = source
    guard (pointer + 4 ≤ image.pageStart parent + image.usableSize)
    putNat pointer 4 target

def movePage (source target : Nat) (use : PageUse) (parent : Nat) : DatabaseEdit Unit := do
  let image ← get
  guard (3 ≤ source)
  let start := image.pageStart source
  put (image.pageStart target) (image.content.extract start (start + image.pageSize))
  if use = .node then setNodeUses target
  else
    let next ← getNat start 4
    if next ≠ 0 then setUse next .morePayload target
  renamePage parent source target use
  setUse target use parent

/-- The page where the next tree starts in databases that keep their trees together. -/
def nextRoot : DatabaseEdit Nat := do
  let image ← get
  let last ← getNat 52 4
  guard (last ≤ image.pageCount)
  return if image.isMapPage (last + 1) then last + 2 else last + 1

/-- Starts a tree without entries. In databases that keep their trees together, what lies in its page moves to
another one. -/
def addTree (isTable : Bool) : DatabaseEdit Nat := do
  let empty : TreeNode := { kind := { isTable, isLeaf := true }, entries := [], last := 0 }
  if (← get).isMapped then
    let root ← nextRoot
    let page ← allocateAt root
    if page ≠ root then
      let (use, parent) ← (← get).use? root
      guard (use ≠ .root ∧ use ≠ .unused)
      movePage root page use parent
    setUse root .root 0
    putNat 52 4 root
    putNode root empty
    return root
  else
    let root ← allocate [] 1
    putNode root empty
    return root

/-- The pages that hold the rest of a payload are near to each other. The page of the one before is given. -/
def nearRest (before : Nat) : DatabaseEdit Nat := do
  let image ← get
  if image.isMapped then return if image.isMapPage (before + 1) then before + 2 else before + 1 else return before

/-- Writes the rest of a payload to pages, which are at most as many as the fuel. Answers the first one. -/
def putRest (held : List Nat) : Nat → Nat → ByteArray → DatabaseEdit Nat
  | 0, _, _ => failure
  | fuel + 1, before, rest => do
    let page ← allocate held (← nearRest before)
    setUse page (if before = 0 then .payload else .morePayload) before
    let image ← get
    let capacity := image.usableSize - 4
    let next ← if rest.size ≤ capacity then pure 0
      else putRest (page :: held) fuel page (rest.extract capacity rest.size)
    put (image.pageStart page) (bytesOf 4 next ++ rest.extract 0 capacity)
    return page

/-- The entry of a leaf with a payload. In a table it has a key. What does not fit goes to other pages. -/
def entryOf (held : List Nat) (key : Option Nat) (payload : ByteArray) : DatabaseEdit NodeEntry := do
  let image ← get
  let head := varintBytes payload.size ++ key.elim ByteArray.empty varintBytes
  let inside := image.heldSize { isTable := key.isSome, isLeaf := true } payload.size
  if inside = payload.size then
    let body := head ++ payload
    return { child := 0, body := filledUp body 4 }
  else
    let first ← putRest held payload.size 0 (payload.extract inside payload.size)
    return { child := 0, body := head ++ payload.extract 0 inside ++ bytesOf 4 first }

end DatabaseEdit

namespace DatabaseImage

/-- The last leaf below a node that is not the root, with the way up to it. Trees are at most as deep as the fuel. -/
def lastLeafBelow? (image : DatabaseImage) (isTable : Bool) : Nat → TreePath → Nat → Option (TreePath × Nat)
  | 0, _, _ => none
  | depth + 1, path, page => do
    let kind ← image.node? page
    guard (kind.isTable = isTable ∧ (path.isEmpty ∨ 0 < image.cellCount page))
    if kind.isLeaf then return (path, page)
    guard (0 < image.cellCount page ∨ page = 1)
    lastLeafBelow? image isTable depth ((page, image.cellCount page) :: path) (image.lastChild page)

def lastLeaf? (image : DatabaseImage) (isTable : Bool) (root : Nat) : Option (TreePath × Nat) :=
  image.lastLeafBelow? isTable depthBound [] root

def signedKey (cell : TreeCell) : Int := DatabaseField.signed 8 cell.key

/-- Looks for a key among sorted cells from one position up to another. Answers a position, and whether the key is
there; if not, it belongs before the cell there. -/
def searchKey (cells : Array TreeCell) (key : Int) : Nat → Nat → Nat → Nat × Bool
  | 0, low, _ => (low, false)
  | fuel + 1, low, high =>
    if high ≤ low then (low, false)
    else
      let middle := (low + (high - 1)) / 2
      match cells[middle]? with
      | none => (low, false)
      | some cell =>
        if signedKey cell < key then searchKey cells key fuel (middle + 1) high
        else if key < signedKey cell then searchKey cells key fuel low middle
        else (middle, true)

/-- The leaf and the position where the row of a key is, with the way up. Trees are at most as deep as the fuel. -/
def findRow? (image : DatabaseImage) (key : Int) : Nat → TreePath → Nat → Option (TreePath × Nat × Nat)
  | 0, _, _ => none
  | depth + 1, path, page => do
    let kind ← image.node? page
    guard (kind.isTable ∧ (path.isEmpty ∨ 0 < image.cellCount page))
    let cells := (image.cells page kind).toArray
    let (position, isThere) := searchKey cells key (cells.size + 1) 0 cells.size
    if kind.isLeaf then if isThere then return (path, page, position) else failure
    else findRow? image key depth ((page, position) :: path) ((cells[position]?).elim (image.lastChild page) TreeCell.child)

end DatabaseImage

namespace DatabaseEdit

open DatabaseImage

/-- The key of a row that follows all others. After the greatest key there is none left, so a lesser one is taken. -/
def nextKey (cells : List TreeCell) : Int :=
  match cells.getLast? with
  | some cell => if signedKey cell = Nat.pow 2 63 - 1 then Nat.pow 2 61 else signedKey cell + 1
  | none => 1

def addRow (root : Nat) (row : ByteArray) : DatabaseEdit Int := do
  let image ← get
  let (path, page) ← image.lastLeaf? true root
  let kind ← image.node? page
  let key := nextKey (image.cells page kind)
  let entry ← entryOf (page :: path.map Prod.fst) (some (key % Nat.pow 2 64).toNat) row
  insert false path page (image.cellCount page) entry
  return key

def setRow (root : Nat) (key : Int) (row : ByteArray) : DatabaseEdit Unit := do
  let (path, page, position) ← (← get).findRow? key depthBound [] root
  let entry ← entryOf (page :: path.map Prod.fst) (some (key % Nat.pow 2 64).toNat) row
  replace path page position entry

def addEntries (root : Nat) (rows : List ByteArray) : DatabaseEdit Unit :=
  for row in rows do
    let (path, page) ← (← get).lastLeaf? false root
    let entry ← entryOf (page :: path.map Prod.fst) none row
    insert true path page ((← get).cellCount page) entry

/-- The number of pages that are left without the unused ones and the maps that are for them only. -/
def leanSize (image : DatabaseImage) (unused : Nat) : Option Nat := do
  let entries := image.usableSize / 5
  let maps := (unused + image.mapPage image.pageCount + entries - image.pageCount) / entries
  guard (unused + maps < image.pageCount)
  let size := image.pageCount - unused - maps
  return if image.isMapPage size then size - 1 else size

/-- Takes unused pages until one is among the first ones. There are at most as many as the fuel. -/
def allocateBelow (bound : Nat) : Nat → DatabaseEdit Nat
  | 0 => failure
  | fuel + 1 => do
    let size := (← get).pageCount
    let page ← allocate [] 0
    guard (page ≤ size)
    if page ≤ bound then return page else allocateBelow bound fuel

def moveDown (bound : Nat) : Nat → DatabaseEdit Unit
  | 0 => return
  | page + 1 => do
    let source := page + 1
    if source ≤ bound then return
    let image ← get
    unless image.isMapPage source do
      if (← getNat unusedCountOffset 4) = 0 then return
      let (use, parent) ← image.use? source
      guard (use ≠ .root)
      unless use = .unused do
        let target ← allocateBelow bound image.pageCount
        movePage source target use parent
    moveDown bound page

/-- Gives back all unused pages, in databases that keep their trees together and do so by themselves. -/
def giveBack : DatabaseEdit Unit := do
  let image ← get
  if image.isMapped ∧ natAt image.content 64 4 = 0 then
    guard (¬ image.isMapPage image.pageCount)
    let unused ← getNat unusedCountOffset 4
    let size ← leanSize image unused
    moveDown size image.pageCount
    if 0 < unused then
      putNat firstTrunkOffset 4 0
      putNat unusedCountOffset 4 0
      putNat 28 4 size
      modify fun image => { image with pageCount := size }

end DatabaseEdit

end Orchestra
