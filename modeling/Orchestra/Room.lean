namespace Orchestra

/-- Why there is no room: the number of bytes has more than 63 bits, or there is no memory for that many. -/
inductive RoomError where
  | beyondNumbers
  | beyondMemory (bytes : Nat)
deriving DecidableEq, Repr

namespace RoomError

def message : RoomError → String
  | beyondNumbers => "capacity overflow"
  | beyondMemory bytes => "memory allocation of " ++ toString bytes ++ " bytes failed"

end RoomError

namespace Room

/-- The number of bytes from which on memory is refused. -/
def memoryBound : Nat := Nat.pow 2 35

/-- Sets room aside for this many items, which take this many bytes each. -/
def reserve (count width : Nat) : Except RoomError Unit :=
  if Nat.pow 2 63 ≤ count * width then .error .beyondNumbers
  else if memoryBound ≤ count * width then .error (.beyondMemory (count * width))
  else .ok ()

end Room

end Orchestra
