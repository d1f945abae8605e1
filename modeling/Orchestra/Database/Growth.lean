import Orchestra.Database.FreeList

namespace Orchestra

open Octets

structure NodeEntry where
  child : Nat
  body : ByteArray

structure TreeNode where
  kind : NodeKind
  entries : List NodeEntry
  /-- The child on the right of all entries. -/
  last : Nat
  /-- How much room is told to be taken, but is not. It is negative if too much is told to be free. -/
  waste : Int := 0

namespace TreeNode

def entrySize (kind : NodeKind) (entry : NodeEntry) : Nat := 2 + entry.body.size + if kind.isLeaf then 0 else 4

def size (node : TreeNode) : Nat := (node.entries.map (entrySize node.kind)).foldl (· + ·) node.kind.headSize

def toldSize (node : TreeNode) : Int := node.size + node.waste

def children (node : TreeNode) : List Nat := node.entries.map NodeEntry.child ++ [node.last]

def cellBytes (kind : NodeKind) (entry : NodeEntry) : ByteArray :=
  if kind.isLeaf then entry.body else DatabaseImage.bytesOf 4 entry.child ++ entry.body

end TreeNode

/-- The bytes of a number in groups of seven bits. -/
def varintBytes (n : Nat) : ByteArray :=
  if Nat.pow 2 56 ≤ n then
    ⟨((List.range 8).map fun i => (128 + n / Nat.pow 2 (57 - 7 * i) % 128).toUInt8).toArray⟩ ++
      DatabaseImage.bytesOf 1 (n % 256)
  else
    let width := n.log2 / 7 + 1
    ⟨((List.range width).map fun i =>
      (n / Nat.pow 128 (width - 1 - i) % 128 + if i + 1 = width then 0 else 128).toUInt8).toArray⟩

namespace DatabaseImage

def nodeSpace (image : DatabaseImage) (page : Nat) : Nat :=
  image.pageStart page + image.usableSize - image.nodeStart page

/-- The room in the free blocks of a page, each of which leads to a later one. Offsets are counted from the start
of the page. -/
def freeBlocks? (image : DatabaseImage) (page : Nat) : Nat → Nat → Option Nat
  | 0, _ => none
  | fuel + 1, block =>
    let start := image.pageStart page + block
    let next := natAt image.content start 2
    let size := natAt image.content (start + 2) 2
    if image.usableSize - 4 < block then none
    else if block + size + 3 < next then (freeBlocks? image page fuel next).map (size + ·)
    else if 0 < next ∨ image.usableSize < block + size then none
    else some size

def cellsTop (image : DatabaseImage) (page : Nat) : Nat :=
  let stated := natAt image.content (image.nodeStart page + 5) 2
  if stated = 0 then 65536 else stated

def pointersEnd (image : DatabaseImage) (page : Nat) (kind : NodeKind) : Nat :=
  image.pointersStart page kind - image.pageStart page + 2 * image.cellCount page

/-- The room that a node tells to be free, if it fits the page. -/
def room? (image : DatabaseImage) (page : Nat) (kind : NodeKind) : Option Nat := do
  let block := natAt image.content (image.nodeStart page + 1) 2
  guard (block = 0 ∨ image.cellsTop page ≤ block)
  let inside ← if block = 0 then some 0 else image.freeBlocks? page image.pageSize block
  let free := byteAt image.content (image.nodeStart page + 7) + image.cellsTop page + inside
  guard (image.pointersEnd page kind ≤ free ∧ free ≤ image.usableSize)
  return free - image.pointersEnd page kind

end DatabaseImage

/-- A way down a tree, from the parent of a node up to the root: pages, and the positions of the children. -/
abbrev TreePath := List (Nat × Nat)

/-- How entries are spread over nodes: for each one, the number of entries before its end, and its size. -/
structure Spread where
  ends : Array Nat
  sizes : Array Int

namespace Spread

/-- The number of entries from a position on that fit into a space, and their size. -/
def fitting (sizes : Array Nat) (space : Int) : Nat → Nat → Int → Nat × Int
  | 0, _, used => (0, used)
  | fuel + 1, position, used =>
    match sizes[position]? with
    | some size =>
      if used + size ≤ space then
        let (count, total) := fitting sizes space fuel (position + 1) (used + size)
        (count + 1, total)
      else (0, used)
    | none => (0, used)

/-- Fills nodes from the left, which have some spaces and room wasted in them. An entry goes up between two nodes if
there are entries in branches. -/
def fill? (sizes : Array Nat) (gap : Nat) : List (Nat × Int) → Nat → Option Spread
  | [], _ => none
  | (space, waste) :: others, start =>
    let (count, used) := fitting sizes space sizes.size start waste
    let stop := start + count
    if sizes.size ≤ stop then some ⟨#[sizes.size], #[used]⟩
    else if count = 0 then none
    else (fill? sizes gap others (stop + gap)).map fun rest => ⟨#[stop] ++ rest.ends, #[used] ++ rest.sizes⟩

/-- Moves entries from one node to the next one as long as that makes it no fuller than the first, or if it has none.
Answers the end of the first one and both sizes. -/
def level (sizes : Array Nat) (gap : Nat) (isLast bulk : Bool) : Nat → Nat → Int → Int → Nat × Int × Int
  | 0, stop, left, right => (stop, left, right)
  | fuel + 1, stop, left, right =>
    match stop with
    | 0 => (0, left, right)
    | r + 1 =>
      let leaving : Int := (sizes[r]?.getD 0 : Nat)
      let coming : Int := (sizes[r + gap]?.getD 0 : Nat)
      if right ≠ 0 ∧ (bulk ∨ left - (leaving - if isLast then 2 else 0) < right + coming) then (stop, left, right)
      else level sizes gap isLast bulk fuel r (left - leaving) (right + coming)

def levelAll? (sizes : Array Nat) (gap : Nat) (bulk : Bool) : Nat → Spread → Option Spread
  | 0, spread => some spread
  | i + 1, spread => do
    let (stop, left, right) := level sizes gap (i + 2 = spread.ends.size) bulk (sizes.size + 1) (spread.ends[i]?.getD 0)
      (spread.sizes[i]?.getD 0) (spread.sizes[i + 1]?.getD 0)
    guard ((if i = 0 then 0 else spread.ends[i - 1]?.getD 0) < stop)
    levelAll? sizes gap bulk i
      ⟨spread.ends.setIfInBounds i stop, (spread.sizes.setIfInBounds i left).setIfInBounds (i + 1) right⟩

def nodeBound : Nat := 5

/-- Spreads entries of some sizes over nodes with some space, of which some is wasted in the first ones. Answers the
ends. -/
def ends? (sizes : Array Nat) (space : Nat) (wastes : List Int) (gap : Nat) (bulk : Bool) : Option (List Nat) := do
  let spaces := (List.range nodeBound).map fun i => (space, wastes[i]?.getD 0)
  let spread ← fill? sizes gap spaces 0
  return (← levelAll? sizes gap bulk (spread.ends.size - 1) spread).ends.toList

end Spread

namespace DatabaseEdit

open DatabaseImage

def getNode (page : Nat) : DatabaseEdit TreeNode := do
  let image ← get
  let kind ← image.node? page
  let cells := image.cells page kind
  guard (cells.all fun cell => cell.offset + cell.width ≤ image.pageStart page + image.pageSize)
  let entries := cells.map fun cell =>
    { child := cell.child
      body := image.content.extract (cell.offset + if kind.isLeaf then 0 else 4) (cell.offset + cell.width) }
  let node : TreeNode := { kind, entries, last := if kind.isLeaf then 0 else image.lastChild page }
  return { node with waste := (image.nodeSpace page : Int) - node.size - (← image.room? page kind) }

/-- Writes a node to a page, with all that is free in one piece before the cells. -/
def putNode (page : Nat) (node : TreeNode) : DatabaseEdit Unit := do
  let image ← get
  let space := image.nodeSpace page
  guard (node.size ≤ space ∧ node.toldSize ≤ space ∧ -256 < node.waste)
  let start := image.nodeStart page
  let front := start - image.pageStart page
  let cells := node.entries.map (TreeNode.cellBytes node.kind)
  let (pointers, top) := cells.foldl (fun (pointers, top) cell =>
    (pointers ++ bytesOf 2 (top - cell.size), top - cell.size)) (ByteArray.empty, image.usableSize)
  let head := bytesOf 1 node.kind.byte ++ bytesOf 2 0 ++ bytesOf 2 cells.length ++
    bytesOf 2 ((top - node.waste.toNat) % 65536) ++ bytesOf 1 (-node.waste).toNat ++ if node.kind.isLeaf then ByteArray.empty else bytesOf 4 node.last
  let blank : ByteArray := ⟨Array.replicate (top - front - head.size - pointers.size) 0⟩
  put start (cells.foldl (fun bytes cell => cell ++ bytes) ByteArray.empty |> (head ++ pointers ++ blank ++ ·))

def checkDistinct (pages : List Nat) : DatabaseEdit Unit := guard pages.Nodup

def allocateMore (held : List Nat) (bulk : Bool) : Nat → Nat → DatabaseEdit (List Nat)
  | 0, _ => return []
  | count + 1, near => do
    let page ← allocate held (if bulk then 1 else near)
    return page :: (← allocateMore (page :: held) bulk count page)

/-- The entry that tells the greatest key of a table node, over the node in a page. -/
def keyEntry (page : Nat) (entry : NodeEntry) : NodeEntry :=
  let (_, sizeWidth) := varintAt entry.body 0
  { child := page, body := varintBytes (varintAt entry.body sizeWidth).1 }

/-- Cuts entries into nodes with the entries between them, which go up. Entries of a table stay in its leaves, and
their keys go up. -/
def cut (kind : NodeKind) (last : Nat) : List NodeEntry → Nat → List Nat → List Nat →
    List TreeNode × List NodeEntry
  | entries, start, stop :: stops, page :: pages =>
    let (here, rest) := entries.splitAt (stop - start)
    match stops, rest with
    | _ :: _, middle :: later =>
      if kind.isTable ∧ kind.isLeaf then
        let (nodes, up) := cut kind last rest stop stops pages
        ({ kind, entries := here, last := 0 } :: nodes,
          (here.getLast?.map (keyEntry page)).toList ++ up)
      else
        let (nodes, up) := cut kind last later (stop + 1) stops pages
        ({ kind, entries := here, last := middle.child } :: nodes, { middle with child := page } :: up)
    | _, _ => ([{ kind, entries := here, last }], [])
  | _, _, _, _ => ([], [])

/-- All entries of some nodes side by side. Those between them come down, unless they only tell keys. -/
def gather (between : List NodeEntry) : List TreeNode → List NodeEntry
  | [] => []
  | node :: rest =>
    match between, rest with
    | middle :: others, _ :: _ =>
      node.entries ++ (if node.kind.isTable ∧ node.kind.isLeaf then []
        else [{ child := node.last, body := middle.body }]) ++ gather others rest
    | _, _ => node.entries ++ gather [] rest

/-- The positions of the children that share their entries with the one at a position: the first one, and how many
there are. -/
def neighbours (entries position : Nat) (bulk : Bool) : Nat × Nat :=
  let fewer := if bulk then 1 else 0
  if entries < 2 then (0, entries + 1)
  else (if position = 0 then 0 else if position = entries then entries - 2 + fewer else position - 1, 3 - fewer)

/-- Spreads the entries of a node and of those beside it. Answers the parent, of which the page and the pages above
are held. A root takes over the entries of its only child if there is room. -/
def redistribute (held : List Nat) (isRoot bulk : Bool) (parentPage : Nat) (parent : TreeNode) (position page : Nat)
    (node : TreeNode) : DatabaseEdit TreeNode := do
  let (first, count) := neighbours parent.entries.length position bulk
  let image ← get
  let leaving := (image.cells parentPage parent.kind).drop first |>.take (count - 1)
  guard (leaving.all fun cell => image.pageStart parentPage + image.cellsTop parentPage ≤ cell.offset)
  let pages := (parent.children.drop first).take count
  checkDistinct (held ++ pages)
  let nodes ← pages.mapM fun sibling =>
    if sibling = page then pure node else getNode sibling
  guard (nodes.all fun sibling => sibling.kind = node.kind)
  let kind := node.kind
  let entries := gather (parent.entries.drop first) nodes
  let isData := kind.isTable && kind.isLeaf
  let wastes := nodes.map TreeNode.waste
  let ends ← Spread.ends? (entries.map (TreeNode.entrySize kind)).toArray (image.usableSize - kind.headSize) wastes
    (if isData then 0 else 1) bulk
  let added ← allocateMore (held ++ pages) bulk (ends.length - count) (pages.headD 0)
  let used := (pages.take ends.length ++ added).mergeSort
  for fresh in added do setUse fresh .node parentPage
  let (cuts, up) := cut kind ((nodes.getLast?.map TreeNode.last).getD 0) entries 0 ends used
  let cuts := cuts.zipIdx.map fun (part, i) => { part with waste := wastes[i]?.getD 0 }
  for (target, part) in used.zip cuts do
    putNode target part
    setNodeUses target
  let after := parent.entries.drop (first + count - 1)
  let lastPage := used.getLast?.getD 0
  let (after, last) := match after with
    | next :: rest => ({ next with child := lastPage } :: rest, parent.last)
    | [] => ([], lastPage)
  let grown : TreeNode := { parent with entries := parent.entries.take first ++ up ++ after, last }
  let lone := cuts.head?.filter fun only =>
    isRoot && grown.entries.isEmpty &&
      only.toldSize ≤ (image.nodeSpace parentPage : Int)
  let result ← match lone with
    | some only =>
      guard (only.waste = 0)
      release lastPage
      pure only
    | none => pure grown
  for spare in pages.drop ends.length do release spare
  return result

/-- Balances a node that is too full or too empty, and then the nodes above it. The way up is given. A table leaf to
which an entry was only appended hands that entry to a new leaf. -/
def balance (bulk appended : Bool) (page : Nat) (node : TreeNode) : TreePath → DatabaseEdit Unit
  | [] => do
    let child ← allocate [page] page
    setUse child .node page
    let root : TreeNode := { kind := { node.kind with isLeaf := false }, entries := [], last := child }
    let root ← redistribute [page] true bulk page root 0 child node
    putNode page root
    if root.kind.isLeaf then setNodeUses page
  | (parentPage, position) :: above => do
    let held := parentPage :: above.map Prod.fst
    guard (¬ held.contains page)
    let parent ← getNode parentPage
    let image ← get
    let isQuick := appended && node.kind.isTable && node.kind.isLeaf && parentPage ≠ 1 &&
      position = parent.entries.length
    let parent ← match isQuick, node.entries.reverse with
      | true, added :: before :: _ => do
        let fresh ← allocate (page :: held) 0
        putNode fresh { node with entries := [added], waste := 0 }
        setUse fresh .node parentPage
        setNodeUses fresh
        pure { parent with entries := parent.entries ++ [keyEntry page before], last := fresh }
      | _, _ => redistribute held above.isEmpty bulk parentPage parent position page node
    let space : Int := image.nodeSpace parentPage
    let tooFull := space < parent.toldSize
    let tooEmpty := 2 * image.usableSize < 3 * (space - parent.toldSize)
    if tooFull ∨ (tooEmpty ∧ ¬ above.isEmpty) then balance bulk false parentPage parent above
    else putNode parentPage parent

/-- Takes room for a cell from the free blocks, from the one that is named at an offset on. Offsets are counted from
the start of the page. Less than four bytes that are left of a block are lost. -/
def takeBlock (page size : Nat) : Nat → Nat → DatabaseEdit (Option Nat)
  | 0, _ => return none
  | fuel + 1, pointer => do
    let image ← get
    let spot (offset : Nat) : Nat := image.pageStart page + offset
    let block ← getNat (spot pointer) 2
    if block ≤ pointer ∨ image.usableSize < block + size then return none
    let found ← getNat (spot (block + 2)) 2
    if found < size then takeBlock page size fuel block
    else if found < size + 4 then
      let lost := image.nodeStart page + 7
      if 57 < (← getNat lost 1) then return none
      putNat (spot pointer) 2 (← getNat (spot block) 2)
      putNat lost 1 ((← getNat lost 1) + (found - size))
      return some block
    else
      guard (block + found ≤ image.usableSize)
      putNat (spot (block + 2)) 2 (found - size)
      return some (block + (found - size))

/-- Moves the cells of a page over one or two free blocks, of which the offsets are given. -/
def moveOver (page : Nat) (kind : NodeKind) (first second : Nat) : DatabaseEdit Unit := do
  let image ← get
  let start := image.pageStart page
  let top := image.cellsTop page
  let width ← getNat (start + first + 2) 2
  let secondWidth ← if second = 0 then pure 0 else getNat (start + second + 2) 2
  let between := if second = 0 then first + width else second
  guard (top < first ∧ first + width ≤ between ∧ between + secondWidth ≤ image.usableSize)
  let move (begin stop distance : Nat) : DatabaseEdit Unit :=
    put (start + begin + distance) (image.content.extract (start + begin) (start + stop))
  move (first + width) between secondWidth
  move top first (width + secondWidth)
  for i in List.range (image.cellCount page) do
    let pointer := image.pointersStart page kind + 2 * i
    let cell ← getNat pointer 2
    if cell < first then putNat pointer 2 (cell + width + secondWidth)
    else if cell < second then putNat pointer 2 (cell + secondWidth)
  putNat (image.nodeStart page + 1) 2 0
  putNat (image.nodeStart page + 5) 2 (top + width + secondWidth)

/-- Moves the cells of a page together, given the room that stays free then. One or two free blocks can be moved over
if little is lost beside them. Otherwise all cells move, which leaves no room to waste. -/
def tidyUp (page : Nat) (kind : NodeKind) (slack : Nat) : DatabaseEdit Unit := do
  let image ← get
  let lost ← getNat (image.nodeStart page + 7) 1
  let nextOf (pointer : Nat) : Nat := natAt image.content (image.pageStart page + pointer) 2
  let first := nextOf (image.nodeStart page - image.pageStart page + 1)
  let second := nextOf first
  if lost ≤ min 4 slack ∧ first ≠ 0 ∧ (second = 0 ∨ nextOf second = 0) then moveOver page kind first second
  else
    let node ← getNode page
    guard (node.waste = 0)
    putNode page node

/-- Takes room for a cell and its pointer from a page that has it. The cells move together if need be. -/
def takeRoom (page : Nat) (kind : NodeKind) (size : Nat) : DatabaseEdit Nat := do
  let image ← get
  let stop := image.pointersEnd page kind
  guard (stop ≤ image.cellsTop page ∧ image.cellsTop page ≤ image.usableSize)
  let front := image.nodeStart page - image.pageStart page
  let block ← if stop + 2 ≤ image.cellsTop page then takeBlock page size image.pageSize (front + 1) else pure none
  match block with
  | some block =>
    guard (stop < block)
    return block
  | none =>
    if image.cellsTop page < stop + 2 + size then
      tidyUp page kind ((← image.room? page kind) - (2 + size))
    let top := (← get).cellsTop page - size
    putNat (image.nodeStart page + 5) 2 top
    return top

def putCell (page : Nat) (kind : NodeKind) (position : Nat) (cell : ByteArray) (offset : Nat) : DatabaseEdit Unit := do
  let image ← get
  let start := image.pointersStart page kind
  let count := image.cellCount page
  let pointer := start + 2 * position
  put (image.pageStart page + offset) cell
  put pointer (bytesOf 2 offset ++ image.content.extract pointer (start + 2 * count))
  putNat (image.nodeStart page + 3) 2 (count + 1)

def insert (bulk : Bool) (path : TreePath) (page position : Nat) (entry : NodeEntry) : DatabaseEdit Unit := do
  let image ← get
  let kind ← image.node? page
  if (← image.room? page kind) < TreeNode.entrySize kind entry then
    let node ← getNode page
    let entries := node.entries.take position ++ entry :: node.entries.drop position
    balance bulk (position = node.entries.length) page { node with entries } path
  else putCell page kind position entry.body (← takeRoom page kind entry.body.size)

/-- The free block after an offset, and the offset where it is named. Looks from the one named at another offset on.
Offsets are counted from the start of the page. -/
def blockAfter (page start : Nat) : Nat → Nat → DatabaseEdit (Nat × Nat)
  | 0, _ => failure
  | fuel + 1, pointer => do
    let block ← getNat ((← get).pageStart page + pointer) 2
    if block = 0 ∨ start ≤ block then return (block, pointer)
    guard (pointer < block)
    blockAfter page start fuel block

/-- Makes room of a page free again. Blocks with less than four bytes between them become one. Offsets are counted
from the start of the page. -/
def giveRoom (page start size : Nat) : DatabaseEdit Unit := do
  let image ← get
  let spot (offset : Nat) : Nat := image.pageStart page + offset
  let front := image.nodeStart page - image.pageStart page
  let (next, pointer) ← blockAfter page start image.pageSize (front + 1)
  guard (next ≤ image.usableSize - 4)
  let stop := start + size
  let joinsNext := 0 < next && next ≤ stop + 3
  guard (¬ joinsNext ∨ stop ≤ next)
  let lostAfter := if joinsNext then next - stop else 0
  let stop ← if joinsNext then (next + ·) <$> getNat (spot (next + 2)) 2 else pure stop
  guard (stop ≤ image.usableSize)
  let next ← if joinsNext then getNat (spot next) 2 else pure next
  let before ← if front + 1 < pointer then (pointer + ·) <$> getNat (spot (pointer + 2)) 2 else pure 0
  let joinsBefore := front + 1 < pointer && start ≤ before + 3
  guard (¬ joinsBefore ∨ before ≤ start)
  let lost := lostAfter + if joinsBefore then start - before else 0
  let start := if joinsBefore then pointer else start
  let fragments ← getNat (spot (front + 7)) 1
  guard (lost ≤ fragments)
  putNat (spot (front + 7)) 1 (fragments - lost)
  let top ← getNat (spot (front + 5)) 2
  if start ≤ top then
    guard (start = top ∧ pointer = front + 1)
    putNat (spot (front + 1)) 2 next
    putNat (spot (front + 5)) 2 stop
  else
    unless joinsBefore do putNat (spot pointer) 2 start
    putNat (spot start) 2 next
    putNat (spot (start + 2)) 2 (stop - start)

def dropCell (page position : Nat) : DatabaseEdit Unit := do
  let image ← get
  let kind ← image.node? page
  let cell ← (image.cells page kind)[position]?
  let count := image.cellCount page
  let start := image.pointersStart page kind
  guard (cell.offset + cell.width ≤ image.pageStart page + image.usableSize)
  giveRoom page (cell.offset - image.pageStart page) cell.width
  if count = 1 then putNode page { kind, entries := [], last := 0 }
  else
    let rest := start + 2 * (position + 1)
    put (start + 2 * position) ((← get).content.extract rest (start + 2 * count))
    putNat (image.nodeStart page + 3) 2 (count - 1)

def replace (path : TreePath) (page position : Nat) (entry : NodeEntry) : DatabaseEdit Unit := do
  dropCell page position
  insert false path page position entry

end DatabaseEdit

end Orchestra
