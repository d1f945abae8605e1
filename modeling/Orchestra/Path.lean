import Orchestra.Json.Basic
import Orchestra.Number.Literal
import Orchestra.Text

namespace Orchestra

namespace Path

/-- The segments of a path. -/
def segments (path : String) : List String := (splitBy '.' path.toList).map String.ofList

/-- The array index that a segment denotes. -/
def index? (segment : String) : Option Nat := Literal.natural? segment

/-- One step down: a field of an object by name, an item of an array by index. -/
def step? : Json → String → Option Json
  | .object fields, segment => Fields.get? fields segment
  | .array items, segment => (index? segment).bind (items[·]?)
  | _, _ => none

/-- Follows segments one after another. -/
def descend? : Json → List String → Option Json
  | value, [] => some value
  | value, segment :: rest => (step? value segment).bind (descend? · rest)

theorem descend?_append (value : Json) (front back : List String) :
    descend? value (front ++ back) = (descend? value front).bind (descend? · back) := by
  induction front generalizing value with
  | nil => rfl
  | cons segment front ih =>
    rw [List.cons_append, descend?, descend?, Option.bind_assoc]
    exact Option.bind_congr fun next _ => ih next

/-- The value at a path. Its first segment names an input or, failing that, an entry of the state. -/
def lookup (path : String) (inputs state : Dict Json) : Option Json :=
  match segments path with
  | [] => none
  | root :: rest => ((inputs.get? root).or (state.get? root)).bind (descend? · rest)

/-- A path is a root and further segments, set off by dots; empty segments count. -/
def Splits (path root : String) (rest : List String) : Prop :=
  path.toList = root.toList ++ rest.flatMap (fun segment => '.' :: segment.toList) ∧
    ∀ segment ∈ root :: rest, '.' ∉ segment.toList

variable {path root : String} {rest : List String} {inputs state : Dict Json}

theorem segments_eq_iff : segments path = root :: rest ↔ Splits path root rest := by
  constructor
  · intro same
    obtain ⟨first, others, split, rfl, rfl⟩ := List.map_eq_cons_iff.mp same
    refine ⟨?_, fun segment member => ?_⟩
    · rw [eq_joined_of_splitBy split, String.toList_ofList, List.flatMap_map]
      simp only [String.toList_ofList]
    · rw [← List.map_cons, List.mem_map] at member
      obtain ⟨part, member, rfl⟩ := member
      rw [String.toList_ofList]
      exact notMem_of_mem_splitBy (split ▸ member)
  · rintro ⟨whole, dotless⟩
    obtain ⟨first, others⟩ := List.forall_mem_cons.mp dotless
    have parts : splitBy '.' path.toList = root.toList :: rest.map String.toList := by
      rw [whole, ← List.flatMap_map String.toList ('.' :: ·)]
      refine splitBy_joined first fun part member => ?_
      obtain ⟨segment, inRest, rfl⟩ := List.mem_map.mp member
      exact others segment inRest
    rw [segments, parts, List.map_cons, List.map_map, String.ofList_toList]
    simp [Function.comp_def]

/-- Two paths with a dot between them have the segments of both. -/
theorem Splits.join {path' segment : String} {after : List String} (first : Splits path root rest)
    (second : Splits path' segment after) : Splits (path ++ "." ++ path') root (rest ++ segment :: after) := by
  refine ⟨?_, fun part member => ?_⟩
  · rw [toList_dotted, first.1, second.1]
    simp
  · rw [← List.cons_append, List.mem_append] at member
    exact member.elim (first.2 part) (second.2 part)

/-- Between two segments a path is two paths with a dot between them. -/
theorem Splits.cut {before after : List String} {segment : String}
    (splits : Splits path root (before ++ segment :: after)) :
    ∃ front back, path = front ++ "." ++ back ∧ Splits front root before ∧ Splits back segment after := by
  obtain ⟨whole, dotless⟩ := splits
  refine ⟨.ofList (root.toList ++ before.flatMap fun part => '.' :: part.toList),
    .ofList (segment.toList ++ after.flatMap fun part => '.' :: part.toList), ?_,
    ⟨String.toList_ofList, fun part member => ?_⟩, ⟨String.toList_ofList, fun part member => ?_⟩⟩
  · apply String.toList_injective
    rw [toList_dotted, whole]
    simp
  · exact dotless part (by rw [← List.cons_append]; exact List.mem_append_left _ member)
  · exact dotless part (by rw [← List.cons_append]; exact List.mem_append_right _ member)

theorem Splits.unique {root' : String} {rest' : List String} (first : Splits path root rest)
    (second : Splits path root' rest') : root = root' ∧ rest = rest' :=
  List.cons.inj ((segments_eq_iff.mpr first).symm.trans (segments_eq_iff.mpr second))

theorem exists_splits (path : String) : ∃ root rest, Splits path root rest := by
  cases same : segments path with
  | nil => exact absurd (List.map_eq_nil_iff.mp same) (splitBy_ne_nil '.' path.toList)
  | cons root rest => exact ⟨root, rest, segments_eq_iff.mp same⟩

theorem Splits.lookup (splits : Splits path root rest) (inputs state : Dict Json) :
    lookup path inputs state = ((inputs.get? root).or (state.get? root)).bind (descend? · rest) := by
  rw [Path.lookup, segments_eq_iff.mpr splits]

end Path

end Orchestra
