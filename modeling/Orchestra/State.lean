import Orchestra.Json.Basic

namespace Orchestra

/-- Values by key; a later write replaces an earlier one. -/
abbrev State := Dict Json

namespace State

/-- Takes in a step's output, as one value under a key if there is one, else entry by entry. -/
def merge (state output : State) : Option String → State
  | some key => state.insert key (.object output.entries)
  | none => state.extend output.entries

/-- The keys that taking in an output writes. -/
def producedKeys (output : State) : Option String → List String
  | some key => [key]
  | none => output.keys

end State

end Orchestra
