import Orchestra.Json.Reader

namespace Orchestra

/-- A record form: for each field, in order, the names that it goes by. -/
abbrev RecordForm := List (List String)

namespace RecordForm

/-- The position of the field with this name. -/
def position? (form : RecordForm) (name : String) : Option Nat :=
  form.findIdx? (·.contains name)

/-- Puts members into the slots of their fields. A second member for a field is refused, a member of no
field is passed over. -/
def fill (form : RecordForm) : List (Option String × Document) → List (Option Document) →
    Option (List (Option Document))
  | [], slots => some slots
  | (none, _) :: _, _ => none
  | (some name, value) :: rest, slots =>
    match form.position? name with
    | none => fill form rest slots
    | some i =>
      match slots[i]?.join with
      | some _ => none
      | none => fill form rest (slots.set i (some value))

/-- The value of each field, in order. An array may leave out fields at its end; items beyond the last field
are refused, or passed over as a surplus. -/
def slots? (form : RecordForm) (surplus : Bool) : Document → Option (List (Option Document))
  | .array items =>
    if items.length ≤ form.length ∨ surplus then
      some ((items.take form.length).map some ++ List.replicate (form.length - items.length) none)
    else none
  | .object members => form.fill members (List.replicate form.length none)
  | _ => none

end RecordForm

namespace Document

def string? : Document → Option String
  | .string s => s
  | _ => none

def bool? : Document → Option Bool
  | .bool b => some b
  | _ => none

/-- A value that may be null. -/
def nullable? {α : Type} (read : Document → Option α) : Document → Option (Option α)
  | .null => some none
  | document => (read document).map some

def array? {α : Type} (read : Document → Option α) : Document → Option (List α)
  | .array items => items.mapM read
  | _ => none

/-- One entry of a dictionary. -/
def member? {α : Type} (read : Document → Option α) (member : Option String × Document) :
    Option (String × α) :=
  match member.1, read member.2 with
  | some key, some value => some (key, value)
  | _, _ => none

/-- A dictionary whose values are read alike. The last value of a key stands, but all have to be readable. -/
def dict? {α : Type} (read : Document → Option α) : Document → Option (Dict α)
  | .object members => (members.mapM (member? read)).map Dict.ofList
  | _ => none

/-- The value of a field that has to be there. -/
def required? {α : Type} (read : Document → Option α) (slot : Option Document) : Option α :=
  slot.bind read

/-- The value of a field that may be left out. -/
def optional? {α : Type} (read : Document → Option α) (fallback : α) : Option Document → Option α
  | none => some fallback
  | some document => read document

end Document

/-- What differs between the media that records are read from: how deep free values may nest, what stands for
the absence of a payload, and whether arrays may hold more items than a record has fields. -/
structure Medium where
  room : Option Nat
  isUnit : Document → Bool
  surplus : Bool

namespace Medium

def isNull : Document → Bool
  | .null => true
  | _ => false

/-- Values that are already in memory. -/
def memory : Medium := ⟨none, isNull, false⟩

/-- JSON text. -/
def text : Medium := ⟨some Document.nestingLimit, isNull, false⟩

/-- A free value this many levels below the root. -/
def free? (medium : Medium) (level : Nat) (document : Document) : Option Json :=
  document.toJson? (medium.room.map (· - level))

end Medium

end Orchestra
