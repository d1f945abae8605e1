import Orchestra.Database.PageMap

namespace Orchestra

open Octets

namespace DatabaseImage

/-- Where the header tells the first trunk, and the number of unused pages. -/
def firstTrunkOffset : Nat := 32

def unusedCountOffset : Nat := 36

/-- The greatest number of pages that a trunk can name beside the next one. -/
def trunkCapacity (image : DatabaseImage) : Nat := image.usableSize / 4 - 2

def trunkPages (image : DatabaseImage) (trunk : Nat) : List Nat :=
  let start := image.pageStart trunk
  (List.range (natAt image.content (start + 4) 4)).map fun i => natAt image.content (start + 8 + 4 * i) 4

end DatabaseImage

/-- The distance of two numbers of 32 bits, the shorter way round. -/
def roundDistance (m n : Nat) : Nat :=
  let d := (m + Nat.pow 2 32 - n) % Nat.pow 2 32
  min d (Nat.pow 2 32 - d)

def nearestPosition (target : Nat) (numbers : List Nat) : Nat :=
  ((numbers.zipIdx.foldl (fun best (n, i) =>
    match best with
    | none => some (roundDistance n target, i)
    | some (distance, _) => if roundDistance n target < distance then some (roundDistance n target, i) else best)
    none).map Prod.snd).getD 0

namespace DatabaseEdit

open DatabaseImage

def checkFree (held : List Nat) (page : Nat) : DatabaseEdit Unit := do
  guard (2 ≤ page ∧ page ≤ (← get).pageCount ∧ ¬ held.contains page)

/-- Adds a page of zeros at the end. If that is for the map, another one follows. -/
def append : DatabaseEdit Nat := do
  let image ← get
  let blank : ByteArray := ⟨Array.replicate image.pageSize 0⟩
  let page := image.pageCount + 1
  let last := if image.isMapped ∧ image.isMapPage page then page + 1 else page
  for added in List.range' page (last + 1 - page) do put (image.pageStart added) blank
  modify fun image => { image with pageCount := last }
  putNat 28 4 last
  return last

def setTrunkPages (trunk : Nat) (pages : List Nat) : DatabaseEdit Unit := do
  let start := (← get).pageStart trunk
  putNat (start + 4) 4 pages.length
  put (start + 8) (pages.foldl (fun bytes page => bytes ++ bytesOf 4 page) ByteArray.empty)

def getTrunkPages (trunk : Nat) : DatabaseEdit (List Nat) := do
  let image ← get
  guard (natAt image.content (image.pageStart trunk + 4) 4 ≤ image.trunkCapacity)
  return image.trunkPages trunk

/-- Takes the page at a position off a trunk. The last page takes its place. -/
def takeFromTrunk (held : List Nat) (trunk : Nat) (pages : List Nat) (position : Nat) : DatabaseEdit Nat := do
  let page ← pages[position]?
  checkFree (trunk :: held) page
  setTrunkPages trunk ((pages.set position (pages.getLast?.getD 0)).dropLast)
  return page

/-- Takes an unused page, one near another page if possible, or adds one at the end. -/
def allocate (held : List Nat) (near : Nat) : DatabaseEdit Nat := do
  let image ← get
  let count ← getNat unusedCountOffset 4
  guard (count < image.pageCount)
  if count = 0 then append
  else
    putNat unusedCountOffset 4 (count - 1)
    let trunk ← getNat firstTrunkOffset 4
    checkFree held trunk
    match ← getTrunkPages trunk with
    | [] =>
      putNat firstTrunkOffset 4 (← getNat (image.pageStart trunk) 4)
      return trunk
    | pages => takeFromTrunk held trunk pages (if near = 0 then 0 else nearestPosition near pages)

/-- Takes a trunk itself. It is named at an offset. The first page that it names takes its place. -/
def takeTrunk (trunk offset : Nat) : DatabaseEdit Unit := do
  let image ← get
  let next ← getNat (image.pageStart trunk) 4
  match ← getTrunkPages trunk with
  | [] => putNat offset 4 next
  | first :: pages =>
    checkFree [trunk] first
    putNat (image.pageStart first) 4 next
    setTrunkPages first pages
    putNat offset 4 first

/-- Takes a certain unused page off the list, from the trunk that is named at an offset on. The trunks are at most as
many as the fuel. -/
def takeUnused (page : Nat) : Nat → List Nat → Nat → DatabaseEdit Unit
  | 0, _, _ => failure
  | fuel + 1, held, offset => do
    let image ← get
    let trunk ← getNat offset 4
    checkFree held trunk
    let pages ← getTrunkPages trunk
    let position := nearestPosition page pages
    if trunk = page then takeTrunk trunk offset
    else
      guard ((pages[position]?).all fun found => 2 ≤ found && found ≤ image.pageCount)
      if pages[position]? = some page then discard (takeFromTrunk [] trunk pages position)
      else takeUnused page fuel [trunk] (image.pageStart trunk)

/-- Takes a certain page if it is said to be unused. Otherwise takes any other one. -/
def allocateAt (page : Nat) : DatabaseEdit Nat := do
  let image ← get
  let count ← getNat unusedCountOffset 4
  guard (count < image.pageCount)
  let use ← if 0 < count ∧ page ≤ image.pageCount then some <$> image.use? page else pure none
  if (use.map Prod.fst) = some .unused then
    putNat unusedCountOffset 4 (count - 1)
    takeUnused page (count + 1) [] firstTrunkOffset
    return page
  else allocate [] page

def release (page : Nat) : DatabaseEdit Unit := do
  checkFree [] page
  let image ← get
  let count ← getNat unusedCountOffset 4
  putNat unusedCountOffset 4 (count + 1)
  setUse page .unused 0
  let trunk ← if count = 0 then pure 0 else getNat firstTrunkOffset 4
  let pages ← if count = 0 then pure none
    else
      guard (1 ≤ trunk ∧ trunk ≤ image.pageCount)
      some <$> getTrunkPages trunk
  match pages.filter fun pages => pages.length < image.usableSize / 4 - 8 with
  | some pages => setTrunkPages trunk (pages ++ [page])
  | none =>
    putNat (image.pageStart page) 4 trunk
    putNat (image.pageStart page + 4) 4 0
    putNat firstTrunkOffset 4 page

end DatabaseEdit

end Orchestra
