import Orchestra.Database.Node

namespace Orchestra

open Octets

/-- A change of a database, which fails where the database is not sound. -/
abbrev DatabaseEdit := StateT DatabaseImage Option

inductive PageUse where
  | root
  | unused
  /-- The first page of the rest of a payload, and a further one. -/
  | payload
  | morePayload
  | node
deriving DecidableEq, Repr

namespace PageUse

def ofByte? : Nat → Option PageUse
  | 1 => some root
  | 2 => some unused
  | 3 => some payload
  | 4 => some morePayload
  | 5 => some node
  | _ => none

def byte : PageUse → Nat
  | root => 1
  | unused => 2
  | payload => 3
  | morePayload => 4
  | node => 5

end PageUse

namespace DatabaseImage

/-- The page of the map that tells what a page is for. There is none for the first page. -/
def mapPage (image : DatabaseImage) (page : Nat) : Nat :=
  let span := image.usableSize / 5 + 1
  if page < 2 then 0 else (page - 2) / span * span + 2

def isMapPage (image : DatabaseImage) (page : Nat) : Bool := 0 < page && image.mapPage page = page

/-- The offset of what the map tells of a page. It does not tell of itself. -/
def mapOffset? (image : DatabaseImage) (page : Nat) : Option Nat :=
  let map := image.mapPage page
  if map < page ∧ 0 < map then some (image.pageStart map + 5 * (page - map - 1)) else none

def use? (image : DatabaseImage) (page : Nat) : Option (PageUse × Nat) := do
  let offset ← image.mapOffset? page
  return (← PageUse.ofByte? (byteAt image.content offset), natAt image.content (offset + 1) 4)

end DatabaseImage

namespace DatabaseEdit

def put (offset : Nat) (bytes : ByteArray) : DatabaseEdit Unit := modify (·.put offset bytes)

def putNat (offset width value : Nat) : DatabaseEdit Unit := modify (·.putNat offset width value)

def getNat (offset width : Nat) : DatabaseEdit Nat := do return natAt (← get).content offset width

def noteNodes (pages : List Nat) : DatabaseEdit Unit :=
  modify fun image => { image with nodes := pages.eraseDups ++ image.nodes }

/-- Tells what a page is for, if there is a map. Nothing has to be told of pages far beyond the end. -/
def setUse (page : Nat) (use : PageUse) (parent : Nat) : DatabaseEdit Unit := do
  let image ← get
  if image.isMapped then
    let offset ← image.mapOffset? page
    guard (¬ image.nodes.contains (image.mapPage page))
    if image.hasPage (image.mapPage page) then
      put offset (DatabaseImage.bytesOf 1 use.byte ++ DatabaseImage.bytesOf 4 parent)

/-- Tells of the pages that a cell names what they are for. -/
def setCellUses (page : Nat) (kind : NodeKind) (cell : TreeCell) : DatabaseEdit Unit := do
  let image ← get
  if cell.held < cell.size then
    guard (cell.offset + cell.held < image.pageStart page + image.pageSize)
    setUse (natAt image.content (cell.offset + cell.width - 4) 4) .payload page
  unless kind.isLeaf do setUse cell.child .node page

def setNodeUses (page : Nat) : DatabaseEdit Unit := do
  let image ← get
  if image.isMapped then
    let kind ← image.node? page
    for cell in image.cells page kind do setCellUses page kind cell
    unless kind.isLeaf do setUse (image.lastChild page) .node page

end DatabaseEdit

end Orchestra
