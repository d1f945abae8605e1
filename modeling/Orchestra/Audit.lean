import Orchestra.Json.Reader
import Orchestra.Json.Text

namespace Orchestra

/-- A stored record. Its identity and its moment are made up when it is stored. -/
structure AuditEntry where
  id : Nat
  kind : String
  payload : Json
  createdAt : Int := 0

/-- A list of records. -/
structure AuditList where
  entries : List AuditEntry := []

namespace AuditList

def store (list : AuditList) (id : Nat) (kind : String) (payload : Json) (now : Int := 0) : AuditList :=
  ⟨list.entries ++ [⟨id, kind, payload, now⟩]⟩

end AuditList

/-- A row of the table; the payload is JSON text. The table numbers its rows by itself. -/
structure AuditRow where
  number : Nat
  id : Nat
  kind : String
  payload : String
  createdAt : Int
deriving DecidableEq, Repr

/-- Whether a row is not older than another one. Of rows from the same moment, the one with the greater number is the
newer one. -/
def AuditRow.newer (row other : AuditRow) : Bool :=
  other.createdAt < row.createdAt || (row.createdAt == other.createdAt && other.number ≤ row.number)

theorem AuditRow.newer_iff {row other : AuditRow} : row.newer other = true ↔
    other.createdAt < row.createdAt ∨ row.createdAt = other.createdAt ∧ other.number ≤ row.number := by
  simp only [newer, Bool.or_eq_true, Bool.and_eq_true, decide_eq_true_eq, beq_iff_eq]

/-- The table of records, in the order of insertion. -/
structure AuditTable where
  rows : List AuditRow := []

namespace AuditTable

/-- Row numbers are below this one. -/
def numberBound : Nat := Nat.pow 2 63

/-- The number of a new row is one more than the greatest one in the table. -/
def nextNumber (table : AuditTable) : Nat := (table.rows.map (·.number)).foldl max 0 + 1

/-- Stores a record, unless its identity is taken or there is no number left for it. -/
def store? (table : AuditTable) (id : Nat) (kind : String) (payload : Json) (now : Int := 0) : Option AuditTable :=
  if id ∈ table.rows.map (·.id) ∨ numberBound ≤ table.nextNumber then none
  else some ⟨table.rows ++ [⟨table.nextNumber, id, kind, payload.compact, now⟩]⟩

/-- The record of a row, if its payload is readable. -/
def decode? (row : AuditRow) : Option AuditEntry :=
  (Json.read? row.payload).map fun payload => ⟨row.id, row.kind, payload, row.createdAt⟩

/-- A limit, read as a number with a sign. -/
def signedLimit (limit : Nat) : Int := (limit : Int).bmod (Nat.pow 2 64)

/-- The first rows up to a limit. A negative limit is none. -/
def limited (rows : List AuditRow) (limit : Int) : List AuditRow :=
  if limit < 0 then rows else rows.take limit.toNat

/-- The latest records of a kind, newest first, up to a limit; there is no answer if one of them is
unreadable. -/
def recent (table : AuditTable) (kind : String) (limit : Nat) : Option (List AuditEntry) :=
  (limited ((table.rows.filter (·.kind = kind)).mergeSort AuditRow.newer) (signedLimit limit)).mapM decode?

end AuditTable

end Orchestra
