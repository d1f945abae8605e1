namespace Orchestra

namespace Utf8

/-- Stands for bytes that are no character. -/
def replacement : Char := '\ufffd'

/-- A character in the middle of its bytes: its bits so far, how many bytes it still needs, and the range of
the next one. -/
structure Pending where
  bits : Nat
  missing : Nat
  low : Nat
  high : Nat
deriving DecidableEq, Repr

/-- What a byte between two characters is. -/
inductive Opening where
  | whole (c : Char)
  | begun (pending : Pending)
  | invalid

def opening (b : Nat) : Opening :=
  if b < 0x80 then .whole (Char.ofNat b)
  else if 0xC2 ≤ b ∧ b ≤ 0xDF then .begun ⟨b - 0xC0, 1, 0x80, 0xBF⟩
  else if b = 0xE0 then .begun ⟨0x0, 2, 0xA0, 0xBF⟩
  else if b = 0xED then .begun ⟨0xD, 2, 0x80, 0x9F⟩
  else if 0xE1 ≤ b ∧ b ≤ 0xEF then .begun ⟨b - 0xE0, 2, 0x80, 0xBF⟩
  else if b = 0xF0 then .begun ⟨0x0, 3, 0x90, 0xBF⟩
  else if b = 0xF4 then .begun ⟨0x4, 3, 0x80, 0x8F⟩
  else if 0xF1 ≤ b ∧ b ≤ 0xF3 then .begun ⟨b - 0xF0, 3, 0x80, 0xBF⟩
  else .invalid

/-- Decodes a byte between two characters, and then the rest. -/
def decodeOpening (rest : Option Pending → List Char) (b : Nat) : List Char :=
  match opening b with
  | .whole c => c :: rest none
  | .begun pending => rest (some pending)
  | .invalid => replacement :: rest none

/-- Decodes bytes after what earlier ones have begun. A beginning that does not go on is replaced, once. -/
def decode : Option Pending → List UInt8 → List Char
  | none, [] => []
  | some _, [] => [replacement]
  | none, b :: rest => decodeOpening (decode · rest) b.toNat
  | some pending, b :: rest =>
    if pending.low ≤ b.toNat ∧ b.toNat ≤ pending.high then
      let bits := pending.bits * 64 + (b.toNat - 0x80)
      if pending.missing = 1 then Char.ofNat bits :: decode none rest
      else decode (some ⟨bits, pending.missing - 1, 0x80, 0xBF⟩) rest
    else replacement :: decodeOpening (decode · rest) b.toNat

/-- The text of any bytes. -/
def lossyText (bytes : ByteArray) : String := String.ofList (decode none bytes.toList)

end Utf8

end Orchestra
