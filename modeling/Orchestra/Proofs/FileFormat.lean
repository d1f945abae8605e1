import Orchestra.File.Name

namespace Orchestra

/-- The extension of the names of files in a format. -/
def FileFormat.extension : FileFormat → String
  | .json => "json"
  | .toml => "toml"

namespace FileName

variable {name last stem ext : String}

theorem last?_eq_some_iff (plain : '/' ∉ name.toList) :
    last? name = some last ↔ last = name ∧ name ≠ "" ∧ name ≠ "." ∧ name ≠ ".." := by
  rw [last?, parts, splitBy_of_notMem plain, List.map_singleton, String.ofList_toList, Option.filter_eq_some_iff]
  by_cases leads : name ≠ "" ∧ name ≠ "."
  · have single : [name].filter (fun part => decide (part ≠ "" ∧ part ≠ ".")) = [name] :=
      List.filter_cons_of_pos (decide_eq_true leads)
    rw [single, List.getLast?_singleton, Option.some.injEq, decide_eq_true_eq]
    constructor
    · rintro ⟨rfl, up⟩
      exact ⟨rfl, leads.1, leads.2, up⟩
    · rintro ⟨rfl, _, _, up⟩
      exact ⟨rfl, up⟩
  · have none : [name].filter (fun part => decide (part ≠ "" ∧ part ≠ ".")) = [] :=
      List.filter_cons_of_neg (by rwa [decide_eq_true_eq])
    rw [none]
    exact iff_of_false nofun fun last => leads ⟨last.2.1, last.2.2.1⟩

theorem exists_dotted (dotted : '.' ∈ name.toList) : ∃ stem ext, name = stem ++ "." ++ ext ∧ '.' ∉ ext.toList := by
  obtain ⟨front, back, whole, dotless⟩ := List.eq_append_cons_of_mem (List.mem_reverse.mpr dotted)
  refine ⟨.ofList back.reverse, .ofList front.reverse, String.toList_injective ?_, by simpa using dotless⟩
  rw [← List.reverse_reverse name.toList, whole]
  simp

theorem extension?_of_undotted (plain : '/' ∉ name.toList) (undotted : '.' ∉ name.toList) :
    extension? name = none := by
  have none : name.toList.reverse.dropWhile (· ≠ '.') = [] := by
    have absent : '.' ∉ name.toList.reverse := by rwa [List.mem_reverse]
    rw [← List.append_nil name.toList.reverse, List.dropWhile_append_of_pos (ne_of_notMem absent), List.dropWhile_nil]
  rw [extension?, Option.bind_eq_none_iff]
  intro last isLast
  obtain ⟨rfl, _⟩ := (last?_eq_some_iff plain).mp isLast
  dsimp only
  rw [none]

/-- What follows the last dot counts if something stands before that dot. -/
theorem extension?_dotted (dotless : '.' ∉ ext.toList) (isLast : last? name = some (stem ++ "." ++ ext)) :
    extension? name = if stem = "" then none else some ext := by
  have reversed : (stem ++ "." ++ ext).toList.reverse = ext.toList.reverse ++ '.' :: stem.toList.reverse := by
    rw [toList_dotted]
    simp
  have dotless' : '.' ∉ ext.toList.reverse := by simpa using dotless
  rw [extension?, isLast, Option.bind_some]
  dsimp only
  rw [reversed, dropWhile_ne dotless', takeWhile_ne dotless', List.reverse_reverse, String.ofList_toList]
  by_cases nothing : stem = ""
  · subst nothing
    rfl
  · obtain ⟨c, rest, more⟩ := List.exists_cons_of_ne_nil (l := stem.toList.reverse) (by simpa using nothing)
    rw [more, if_neg nothing]
    rfl

end FileName

namespace FileFormat

variable {name : String} {format : FileFormat}

theorem ofPath?_iff_extension : ofPath? name = some format ↔ FileName.extension? name = some format.extension := by
  rw [ofPath?]
  split
  next json => cases format <;> simp [json, extension]
  next toml => cases format <;> simp [toml, extension]
  next notJson notToml => cases format with
    | json => exact iff_of_false nofun notJson
    | toml => exact iff_of_false nofun notToml

/-- A name tells a format if it ends in a dot and the format's extension, behind something else. -/
theorem ofPath?_eq_some_iff (plain : '/' ∉ name.toList) :
    ofPath? name = some format ↔ ∃ stem, stem ≠ "" ∧ name = stem ++ "." ++ format.extension := by
  rw [ofPath?_iff_extension]
  constructor
  · intro told
    by_cases dotted : '.' ∈ name.toList
    · obtain ⟨stem, ext, rfl, dotless⟩ := FileName.exists_dotted dotted
      obtain ⟨last, isLast, _⟩ := Option.bind_eq_some_iff.mp told
      obtain ⟨rfl, _⟩ := (FileName.last?_eq_some_iff plain).mp isLast
      rw [FileName.extension?_dotted dotless isLast] at told
      split at told
      · cases told
      next some => exact ⟨stem, some, by rw [Option.some.inj told]⟩
    · rw [FileName.extension?_of_undotted plain dotted] at told
      cases told
  · rintro ⟨stem, some, rfl⟩
    have dotless : '.' ∉ format.extension.toList := by cases format <;> decide
    have long (short : String) (few : short.length ≤ 2) : stem ++ "." ++ format.extension ≠ short := by
      rintro rfl
      have added : 3 ≤ ".".length + format.extension.length := by cases format <;> decide
      rw [String.length_append, String.length_append] at few
      omega
    have isLast := (FileName.last?_eq_some_iff plain).mpr
      ⟨rfl, long "" (by decide), long "." (by decide), long ".." (by decide)⟩
    rw [FileName.extension?_dotted dotless isLast, if_neg some]

end FileFormat

end Orchestra
