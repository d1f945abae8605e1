import Orchestra.Database.Node
import Orchestra.Number.Extended
import Orchestra.Utf8

namespace Orchestra

open Octets

inductive DatabaseField where
  | absent
  | integer (value : Int)
  | real (value : ExtendedDouble)
  | text (content : ByteArray)
  | blob (content : ByteArray)

namespace DatabaseField

def size (type : Nat) : Nat :=
  if 12 ≤ type then (type - 12) / 2
  else if type ≤ 4 then type
  else if type = 5 then 6
  else if type ≤ 7 then 8
  else 0

def signed (width n : Nat) : Int :=
  if 2 * n < Nat.pow 256 width then n else (n : Int) - (Nat.pow 256 width : Nat)

/-- The value of a type at an offset. -/
def read (row : ByteArray) (type offset : Nat) : DatabaseField :=
  let content := row.extract offset (offset + size type)
  if 12 ≤ type then if type % 2 = 0 then .blob content else .text content
  else if type = 7 then
    match ExtendedDouble.ofBits (natAt row offset 8) with
    | .nan => .absent
    | x => .real x
  else if 1 ≤ type ∧ type ≤ 6 then .integer (signed (size type) (natAt row offset (size type)))
  else if type = 8 then .integer 0
  else if type = 9 then .integer 1
  else .absent

end DatabaseField

namespace DatabaseImage

/-- A number of at most 32 bits, and how many bytes it takes. Greater ones count as the greatest. -/
def smallVarint (content : ByteArray) (offset : Nat) : Nat × Nat :=
  let (n, width) := varintAt content offset
  (min n (Nat.pow 2 32 - 1), width)

/-- The types of the first fields in a head, at most as many as the fuel, each with the offset of its value. Also
answers where the types and the values end. There is one type at least. -/
def typesFrom (content : ByteArray) (stop : Nat) : Nat → Nat → Nat → List (Nat × Nat) × Nat × Nat
  | 0, offset, value => ([], offset, value)
  | fuel + 1, offset, value =>
    let (type, width) := smallVarint content offset
    let next := value + DatabaseField.size type
    if stop ≤ offset + width then ([(type, value)], offset + width, next)
    else
      let (rest, ends) := typesFrom content stop fuel (offset + width) next
      ((type, value) :: rest, ends)

/-- The greatest head that a row can have. -/
def headBound : Nat := 98307

/-- The types of the first fields of a row, each with the offset of its value in the payload. The values of a row
whose head is complete have to fill the payload, but an empty head stands for a row without fields. -/
def types? (image : DatabaseImage) (cell : TreeCell) (count : Nat) : Option (List (Nat × Nat)) := do
  guard (cell.payload < image.pageStart cell.page + image.pageSize)
  let (head, width) := smallVarint image.content cell.payload
  let direct := head ≤ image.directSize cell
  guard (direct ∨ (head ≤ headBound ∧ head ≤ cell.size))
  let content ← if direct then some (image.content.extract cell.payload (cell.payload + max head 18))
    else image.payloadPart? cell 0 head
  let (types, stop, size) := typesFrom content head count width head
  if (head ≤ stop ∧ (head < stop ∨ size ≠ cell.size)) ∨ cell.size < size then
    if head = 0 then return [] else failure
  return types

def value? (image : DatabaseImage) (cell : TreeCell) (type offset : Nat) : Option DatabaseField :=
  let size := DatabaseField.size type
  if offset + size ≤ image.directSize cell then some (DatabaseField.read image.content type (cell.payload + offset))
  else if size = 0 then some (DatabaseField.read ByteArray.empty type 0)
  else (image.payloadPart? cell offset size).map fun content => DatabaseField.read content type 0

/-- The first fields of a row. There may be fewer. -/
def fields? (image : DatabaseImage) (cell : TreeCell) (count : Nat) : Option (List DatabaseField) := do
  (← image.types? cell count).mapM fun (type, offset) => image.value? cell type offset

/-- A field of a row, by its position. One that is not there is absent. -/
def field? (image : DatabaseImage) (cell : TreeCell) (position : Nat) : Option DatabaseField := do
  match (← image.types? cell (position + 1))[position]? with
  | some (type, offset) => image.value? cell type offset
  | none => return .absent

end DatabaseImage

inductive TextEncoding where
  | utf8
  | utf16 (littleEndian : Bool)
deriving DecidableEq, Repr

namespace TextEncoding

def ofImage (image : DatabaseImage) : TextEncoding :=
  match byteAt image.content 59 % 4 with
  | 2 => utf16 true
  | 3 => utf16 false
  | _ => utf8

def units (littleEndian : Bool) : List UInt8 → List Nat
  | a :: b :: rest =>
    (if littleEndian then b.toNat * 256 + a.toNat else a.toNat * 256 + b.toNat) :: units littleEndian rest
  | _ => []

/-- The characters of 16-bit units. Units that are no character are replaced. -/
def ofUnits : List Nat → List Char
  | [] => []
  | [u] => [if u.isValidChar then Char.ofNat u else Utf8.replacement]
  | u :: v :: rest =>
    if 0xD800 ≤ u ∧ u < 0xDC00 ∧ 0xDC00 ≤ v ∧ v < 0xE000 then
      Char.ofNat (0x10000 + (u - 0xD800) * 0x400 + (v - 0xDC00)) :: ofUnits rest
    else (if u.isValidChar then Char.ofNat u else Utf8.replacement) :: ofUnits (v :: rest)

def unitsOf (c : Char) : List Nat :=
  let n := c.toNat
  if n < 0x10000 then [n] else [0xD800 + (n - 0x10000) / 0x400, 0xDC00 + (n - 0x10000) % 0x400]

def encode (encoding : TextEncoding) (text : String) : ByteArray :=
  match encoding with
  | utf8 => text.toUTF8
  | utf16 littleEndian =>
    let bytes (u : Nat) : List UInt8 :=
      let pair := [UInt8.ofNat (u / 256), UInt8.ofNat (u % 256)]
      if littleEndian then pair.reverse else pair
    ⟨((text.toList.flatMap unitsOf).flatMap bytes).toArray⟩

def decode (encoding : TextEncoding) (content : ByteArray) : String :=
  match encoding with
  | utf8 => Utf8.lossyText content
  | utf16 littleEndian => String.ofList (ofUnits (units littleEndian content.toList))

end TextEncoding

/-- The text of a field, which a zero ends. -/
def DatabaseField.text? (encoding : TextEncoding) : DatabaseField → Option String
  | .absent => none
  | .integer n => some (toString n)
  | .real (.finite x) => some x.jsonText
  | .real (.infinite negative) => some (if negative then "-Inf" else "Inf")
  | .real .nan => none
  | .text content | .blob content =>
    some (String.ofList ((encoding.decode content).toList.takeWhile (· ≠ '\x00')))

end Orchestra
