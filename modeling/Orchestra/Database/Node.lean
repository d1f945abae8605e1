import Orchestra.Database.Image

namespace Orchestra

open Octets

/-- The kinds of nodes. The rows of a table lie in its leaves, the entries of an index in all its nodes. -/
structure NodeKind where
  isTable : Bool
  isLeaf : Bool
deriving DecidableEq, Repr

namespace NodeKind

def ofByte? : Nat → Option NodeKind
  | 2 => some ⟨false, false⟩
  | 5 => some ⟨true, false⟩
  | 10 => some ⟨false, true⟩
  | 13 => some ⟨true, true⟩
  | _ => none

def byte (kind : NodeKind) : Nat := (if kind.isTable then 5 else 2) + if kind.isLeaf then 8 else 0

def headSize (kind : NodeKind) : Nat := if kind.isLeaf then 8 else 12

end NodeKind

/-- A cell of a node. Its payload starts in the page and may go on in further ones. -/
structure TreeCell where
  page : Nat
  /-- The offset of the cell in the file, and the number of its bytes there. -/
  offset : Nat
  width : Nat
  /-- The page below the cell, in a branch. -/
  child : Nat
  key : Nat
  /-- The offset of the payload, its size, and how much of it is in the page. -/
  payload : Nat
  size : Nat
  held : Nat

namespace DatabaseImage

/-- The offset of the node in a page; the file header comes before the first one. -/
def nodeStart (image : DatabaseImage) (page : Nat) : Nat := image.pageStart page + if page = 1 then 100 else 0

def kind? (image : DatabaseImage) (page : Nat) : Option NodeKind :=
  NodeKind.ofByte? (byteAt image.content (image.nodeStart page))

def cellCount (image : DatabaseImage) (page : Nat) : Nat := natAt image.content (image.nodeStart page + 3) 2

def node? (image : DatabaseImage) (page : Nat) : Option NodeKind :=
  if image.hasPage page ∧ image.cellCount page ≤ (image.pageSize - 8) / 6 then image.kind? page else none

def lastChild (image : DatabaseImage) (page : Nat) : Nat := natAt image.content (image.nodeStart page + 8) 4

/-- The size of a payload, which is cut to 32 bits, and how many bytes it takes. -/
def payloadSize (image : DatabaseImage) (offset : Nat) : Nat × Nat :=
  let (n, width) := varintAt image.content offset
  let last := byteAt image.content (offset + 8)
  ((if width = 9 then n / 256 * 128 + last % 128 else n) % Nat.pow 2 32, width)

/-- The least part of a payload that lies in its page if not all of it does. -/
def leastHeld (image : DatabaseImage) : Nat := (image.usableSize - 12) * 32 / 255 - 23

/-- The greatest payload of which all lies in its page. -/
def mostHeld (image : DatabaseImage) (kind : NodeKind) : Nat :=
  if kind.isTable then image.usableSize - 35 else (image.usableSize - 12) * 64 / 255 - 23

def heldSize (image : DatabaseImage) (kind : NodeKind) (size : Nat) : Nat :=
  let most := image.mostHeld kind
  let least := image.leastHeld
  let surplus := least + (size - least) % (image.usableSize - 4)
  if size ≤ most then size else if surplus ≤ most then surplus else least

def cellAt (image : DatabaseImage) (page : Nat) (kind : NodeKind) (offset : Nat) : TreeCell :=
  let child := if kind.isLeaf then 0 else natAt image.content offset 4
  let start := if kind.isLeaf then offset else offset + 4
  if kind.isTable ∧ ¬ kind.isLeaf then
    let (key, keyWidth) := varintAt image.content start
    { page, offset, width := 4 + keyWidth, child, key, payload := start + keyWidth, size := 0, held := 0 }
  else
    let (size, sizeWidth) := image.payloadSize start
    let (key, keyWidth) := if kind.isTable then varintAt image.content (start + sizeWidth) else (0, 0)
    let payload := start + sizeWidth + keyWidth
    let held := image.heldSize kind size
    let width := payload - offset + held + if held = size then 0 else 4
    { page, offset, width := max 4 width, child, key, payload, size, held }

def pointersStart (image : DatabaseImage) (page : Nat) (kind : NodeKind) : Nat :=
  image.nodeStart page + kind.headSize

def cells (image : DatabaseImage) (page : Nat) (kind : NodeKind) : List TreeCell :=
  (List.range (image.cellCount page)).map fun i =>
    image.cellAt page kind
      (image.pageStart page + natAt image.content (image.pointersStart page kind + 2 * i) 2 % image.pageSize)

def depthBound : Nat := 20

/-- The cells with payloads below a node, in order, given those below other nodes. -/
def joinCells (image : DatabaseImage) (below : Nat → Option (List TreeCell)) (page : Nat) (kind : NodeKind) :
    Option (List TreeCell) :=
  let cells := image.cells page kind
  if kind.isLeaf then some cells
  else do
    let parts ← cells.mapM fun cell => do
      return (← below cell.child) ++ if kind.isTable then [] else [cell]
    return parts.flatten ++ (← below (image.lastChild page))

/-- The cells with payloads below a node that is not the root. It has a cell at least. -/
def cellsBelow? (image : DatabaseImage) (isTable : Bool) : Nat → Nat → Option (List TreeCell)
  | 0, _ => none
  | depth + 1, page => do
    let kind ← image.node? page
    guard (kind.isTable = isTable ∧ 0 < image.cellCount page)
    image.joinCells (cellsBelow? image isTable depth) page kind

/-- The cells with payloads of the tree that starts in a page. Only the tree in the first page can be a branch
without cells. -/
def treeCells? (image : DatabaseImage) (isTable : Bool) (root : Nat) : Option (List TreeCell) := do
  let kind ← image.node? root
  guard (kind.isTable = isTable ∧ (kind.isLeaf ∨ 0 < image.cellCount root ∨ root = 1))
  image.joinCells (image.cellsBelow? isTable (depthBound - 1)) root kind

/-- Some bytes from a chain of pages, each of which names the next one. The pages are at most as many as the
fuel. -/
def chain? (image : DatabaseImage) : Nat → Nat → Nat → Nat → Option ByteArray
  | 0, _, _, _ => none
  | fuel + 1, page, skipped, amount =>
    if ¬ image.hasPage page then none
    else
      let start := image.pageStart page
      let capacity := image.usableSize - 4
      let next := natAt image.content start 4
      if capacity ≤ skipped then chain? image fuel next (skipped - capacity) amount
      else
        let found := image.content.extract (start + 4 + skipped) (start + 4 + min (skipped + amount) capacity)
        if skipped + amount ≤ capacity then some found
        else (chain? image fuel next 0 (skipped + amount - capacity)).map (found ++ ·)

/-- Some bytes of the payload of a cell, when not all of them are known to be in the page. -/
def payloadPart? (image : DatabaseImage) (cell : TreeCell) (skipped amount : Nat) : Option ByteArray :=
  if image.pageSize * image.pageCount < skipped + amount then none
  else if image.pageStart cell.page + image.usableSize < cell.payload + cell.held then none
  else
    let start := cell.payload + skipped
    if skipped + amount ≤ cell.held then some (image.content.extract start (start + amount))
    else
      let found := image.content.extract start (cell.payload + cell.held)
      (image.chain? (skipped + amount + 1) (natAt image.content (cell.payload + cell.held) 4) (skipped - cell.held)
        (amount - found.size)).map (found ++ ·)

/-- How much of the payload of a cell can be read directly. -/
def directSize (image : DatabaseImage) (cell : TreeCell) : Nat :=
  min cell.held (image.pageStart cell.page + image.pageSize - cell.payload)

end DatabaseImage

end Orchestra
