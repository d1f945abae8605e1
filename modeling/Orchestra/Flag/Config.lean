import Orchestra.Json.Record
import Orchestra.Text

namespace Orchestra

/-- A flag, and the percentage of callers that it is on for while enabled. -/
structure FlagSpec where
  enabled : Bool := false
  rollout : Double := .zero
  description : Option String := none
  createdAt : Option String := none
  updatedAt : Option String := none

/-- Flags by category and name. -/
abbrev FlagConfig := Dict (Dict FlagSpec)

namespace FlagSpec

/-- A flag that is enabled for a percentage of callers. -/
def ofRollout (percentage : Double) : FlagSpec := { enabled := true, rollout := percentage }

def toJson (spec : FlagSpec) : Json :=
  .object [
    ("enabled", .bool spec.enabled),
    ("rollout_percentage", .number (.real spec.rollout)),
    ("description", .ofString? spec.description),
    ("created_at", .ofString? spec.createdAt),
    ("updated_at", .ofString? spec.updatedAt)]

def form : RecordForm :=
  [["enabled"], ["rollout_percentage"], ["description"], ["created_at"], ["updated_at"]]

def double? : Document → Option Double
  | .number n => n.map Number.toDouble
  | _ => none

def read? (document : Document) : Option FlagSpec :=
  open Document in
  match form.slots? false document with
  | some [enabled, rollout, description, createdAt, updatedAt] => do
    let enabled ← optional? bool? false enabled
    let rollout ← optional? double? .zero rollout
    let description ← optional? (nullable? string?) none description
    let createdAt ← optional? (nullable? string?) none createdAt
    let updatedAt ← optional? (nullable? string?) none updatedAt
    return { enabled, rollout, description, createdAt, updatedAt }
  | _ => none

end FlagSpec

namespace FlagConfig

def read? (document : Document) : Option FlagConfig := Document.dict? (Document.dict? FlagSpec.read?) document

/-- The configuration that a value describes. -/
def ofJson? (value : Json) : Option FlagConfig := read? (.ofJson value)

/-- The configuration that a JSON text describes. -/
def ofText? (text : String) : Option FlagConfig := (Document.read? text).bind read?

def toJson (config : FlagConfig) : Json :=
  .object (config.entries.map fun (category, flags) =>
    (category, .object (flags.entries.map fun (name, spec) => (name, spec.toJson))))

/-- The flag of this name in this category. -/
def spec? (config : FlagConfig) (category name : String) : Option FlagSpec :=
  (config.get? category).bind (·.get? name)

/-- Adds or replaces one flag. -/
def withFlag (config : FlagConfig) (category name : String) (spec : FlagSpec) : FlagConfig :=
  config.insert category (((config.get? category).getD ∅).insert name spec)

/-- A name cut at its first dot, if it has one. -/
def splitName (flag : String) : Option (String × String) :=
  match flag.toList.dropWhile (· ≠ '.') with
  | [] => none
  | _ :: rest => some (String.ofList (flag.toList.takeWhile (· ≠ '.')), String.ofList rest)

/-- The flag of this name in the first category, by key, that has one. -/
def anywhere? (config : FlagConfig) (name : String) : Option FlagSpec :=
  config.values.findSome? (·.get? name)

/-- Finds a flag by category and name. A name whose category does not hold it, or that has no category, is
looked for in all categories. -/
def lookup (config : FlagConfig) (flag : String) : Option FlagSpec :=
  match splitName flag with
  | some (category, name) => (((config.get? category).bind (·.get? name))).or (config.anywhere? name)
  | none => config.anywhere? flag

variable {config : FlagConfig} {category name flag : String}

theorem spec?_withFlag (config : FlagConfig) (category name other flag : String) (spec : FlagSpec) :
    (config.withFlag category name spec).spec? other flag =
      if category = other ∧ name = flag then some spec else config.spec? other flag := by
  unfold spec? withFlag
  rw [Dict.get?_insert]
  by_cases same : category = other
  · subst same
    rw [if_pos rfl, Option.bind_some, Dict.get?_insert]
    by_cases here : name = flag
    · rw [if_pos here, if_pos ⟨rfl, here⟩]
    · rw [if_neg here, if_neg fun both => here both.2]
      cases config.get? category with
      | none => rfl
      | some flags => rfl
  · rw [if_neg same, if_neg fun both => same both.1]

theorem isSome_get?_withFlag (config : FlagConfig) (category name other : String) (spec : FlagSpec) :
    ((config.withFlag category name spec).get? other).isSome =
      (decide (category = other) || (config.get? other).isSome) := by
  rw [withFlag, Dict.get?_insert]
  by_cases same : category = other
  · simp [same]
  · simp [same]

/-- A name without a category is looked for in one category after another. -/
theorem anywhere?_eq : config.anywhere? name = config.keys.findSome? fun category => config.spec? category name := by
  have each : ∀ entry ∈ config.entries, entry.2.get? name = config.spec? entry.1 name := by
    intro entry member
    have found : config.get? entry.1 = some entry.2 := config.ascending.mem_iff.mp member
    simp only [spec?, found, Option.bind_some]
  unfold anywhere? Dict.values Dict.keys
  rw [List.findSome?_map, List.findSome?_map]
  generalize config.entries = entries at each
  induction entries with
  | nil => rfl
  | cons entry rest ih =>
    obtain ⟨first, others⟩ := List.forall_mem_cons.mp each
    simp only [List.findSome?_cons, Function.comp_apply, first, ih others]

theorem splitName_of_plain (plain : '.' ∉ flag.toList) : splitName flag = none := by
  have nothing : (flag.toList ++ []).dropWhile (· ≠ '.') = [] :=
    List.dropWhile_append_of_pos (ne_of_notMem plain)
  rw [List.append_nil] at nothing
  rw [splitName, nothing]

theorem splitName_qualified (dotless : '.' ∉ category.toList) :
    splitName (category ++ "." ++ name) = some (category, name) := by
  rw [splitName, toList_dotted, dropWhile_ne dotless, takeWhile_ne dotless]
  simp

theorem lookup_of_plain (plain : '.' ∉ flag.toList) : config.lookup flag = config.anywhere? flag := by
  rw [lookup, splitName_of_plain plain]

theorem lookup_qualified (dotless : '.' ∉ category.toList) :
    config.lookup (category ++ "." ++ name) = (config.spec? category name).or (config.anywhere? name) := by
  rw [lookup, splitName_qualified dotless]
  rfl

end FlagConfig

end Orchestra
