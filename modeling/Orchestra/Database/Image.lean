namespace Orchestra

namespace Octets

/-- The byte at an offset; there are zeros beyond the end. -/
def byteAt (content : ByteArray) (offset : Nat) : Nat := (content.data[offset]?).elim 0 UInt8.toNat

/-- The number in some bytes, the most significant one first. -/
def natAt (content : ByteArray) (offset width : Nat) : Nat :=
  (List.range width).foldl (fun n i => n * 256 + byteAt content (offset + i)) 0

/-- A number of seven bits a byte, the last of which has no eighth bit, up to some byte that has all its bits.
Answers the number and how many bytes it takes. -/
def varintFrom (content : ByteArray) (soFar : Nat) : Nat → Nat → Nat × Nat
  | 0, offset => (soFar * 256 + byteAt content offset, 1)
  | more + 1, offset =>
    let byte := byteAt content offset
    if byte < 128 then (soFar * 128 + byte, 1)
    else
      let (n, size) := varintFrom content (soFar * 128 + (byte - 128)) more (offset + 1)
      (n, size + 1)

def varintAt (content : ByteArray) (offset : Nat) : Nat × Nat := varintFrom content 0 8 offset

end Octets

open Octets

/-- A database file whose header is sound. The content is filled up to whole pages. -/
structure DatabaseImage where
  content : ByteArray
  pageSize : Nat
  /-- The size of a page without what is reserved at its end. -/
  usableSize : Nat
  pageCount : Nat
  /-- Pages that are known to hold nodes. -/
  nodes : List Nat := []

namespace DatabaseImage

def magic : ByteArray := "SQLite format 3\x00".toUTF8

def pageSizes : List Nat := [512, 1024, 2048, 4096, 8192, 16384, 32768, 65536]

/-- The size of a page; the greatest one is written as one. -/
def pageSizeIn (content : ByteArray) : Nat := byteAt content 16 * 256 + byteAt content 17 * 65536

/-- The number of pages that the header tells, if it does and was written last by a program that knows to. -/
def statedPages? (content : ByteArray) : Option Nat :=
  let stated := natAt content 28 4
  if stated ≠ 0 ∧ natAt content 24 4 = natAt content 92 4 then some stated else none

def filledUp (content : ByteArray) (size : Nat) : ByteArray :=
  content ++ ⟨Array.replicate (size - content.size) 0⟩

/-- The image in the content of a file that is not blank. -/
def ofContent? (content : ByteArray) : Option DatabaseImage :=
  let pageSize := pageSizeIn content
  let usableSize := pageSize - byteAt content 20
  let filePages := (content.size + pageSize - 1) / pageSize
  let pageCount := (statedPages? content).getD filePages
  let sound := content.toList.take magic.size = magic.toList ∧ pageSizes.contains pageSize ∧
    480 ≤ usableSize ∧ byteAt content 19 ≤ 2 ∧ [21, 22, 23].map (byteAt content) = [64, 32, 32] ∧
    byteAt content 47 ≤ 4 ∧ pageCount ≤ filePages
  if sound then
    some { content := filledUp content (filePages * pageSize), pageSize, usableSize, pageCount }
  else none

def isWritable (image : DatabaseImage) : Bool := byteAt image.content 18 ≤ 2

def pageStart (image : DatabaseImage) (page : Nat) : Nat := (page - 1) * image.pageSize

def hasPage (image : DatabaseImage) (page : Nat) : Bool := 1 ≤ page && page ≤ image.pageCount

/-- Whether trees are kept together, with a map of pages. -/
def isMapped (image : DatabaseImage) : Bool := natAt image.content 52 4 ≠ 0

/-- The image with other bytes at an offset. It gets longer if need be. -/
def put (image : DatabaseImage) (offset : Nat) (bytes : ByteArray) : DatabaseImage :=
  let content := filledUp image.content offset
  { image with
    content := content.extract 0 offset ++ bytes ++ content.extract (offset + bytes.size) content.size }

def bytesOf (width value : Nat) : ByteArray :=
  ⟨((List.range width).map fun i => (value / Nat.pow 256 (width - 1 - i)).toUInt8).toArray⟩

def putNat (image : DatabaseImage) (offset width value : Nat) : DatabaseImage :=
  image.put offset (bytesOf width value)

end DatabaseImage

end Orchestra
