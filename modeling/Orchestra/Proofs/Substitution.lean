import Orchestra.Proofs.Placeholder
import Orchestra.Template.Resolve

namespace Orchestra

namespace Template

section Relation

variable (inputs state : Dict Json)

/-- What a part becomes in running text. -/
inductive Becomes : Part → List Char → Prop
  | literal (c : Char) : Becomes (.literal c) [c]
  | text {name s : String} : Path.lookup name inputs state = some (.string s) → Becomes (.placeholder name) s.toList
  | value {name : String} {value : Json} : Path.lookup name inputs state = some value → value.string? = none →
      Becomes (.placeholder name) value.compact.toList
  | missing {name : String} : Path.lookup name inputs state = none → Becomes (.placeholder name) (braced name.toList)

/-- What the parts of a text become, one after another. -/
inductive Running : List Part → List Char → Prop
  | nil : Running [] []
  | cons {part : Part} {piece rest : List Char} {parts : List Part} :
      Becomes inputs state part piece → Running parts rest →
      Running (part :: parts) (piece ++ rest)

/-- What a text becomes: the value of the placeholder that it is, else a text. -/
inductive FilledText (text : String) : Json → Prop
  | alone {name : String} {value : Json} : IsReference name.toList → text.toList = braced name.toList →
      Path.lookup name inputs state = some value → FilledText text value
  | unknown {name : String} : IsReference name.toList → text.toList = braced name.toList →
      Path.lookup name inputs state = none → FilledText text (.string text)
  | running {parts : List Part} {filled : String} :
      (∀ name : String, IsReference name.toList → text.toList ≠ braced name.toList) → Cut text.toList parts →
      Running inputs state parts filled.toList → FilledText text (.string filled)

mutual

/-- What a template becomes. Items and fields keep their order and their number, fields their keys. -/
inductive Filled : Json → Json → Prop
  | string {text : String} {value : Json} : FilledText inputs state text value → Filled (.string text) value
  | array {items values : List Json} : FilledItems items values → Filled (.array items) (.array values)
  | object {fields values : List (String × Json)} : FilledFields fields values →
      Filled (.object fields) (.object values)
  | null : Filled .null .null
  | bool (b : Bool) : Filled (.bool b) (.bool b)
  | number (n : Number) : Filled (.number n) (.number n)

inductive FilledItems : List Json → List Json → Prop
  | nil : FilledItems [] []
  | cons {item value : Json} {items values : List Json} : Filled item value → FilledItems items values →
      FilledItems (item :: items) (value :: values)

inductive FilledFields : List (String × Json) → List (String × Json) → Prop
  | nil : FilledFields [] []
  | cons {key : String} {item value : Json} {fields values : List (String × Json)} : Filled item value →
      FilledFields fields values → FilledFields ((key, item) :: fields) ((key, value) :: values)

end

end Relation

variable {inputs state : Dict Json} {text name : String}

/-- The scanner finds nothing but one placeholder exactly in a text that is one. -/
theorem parts_eq_singleton_iff :
    parts text = [.placeholder name] ↔ IsReference name.toList ∧ text.toList = braced name.toList := by
  constructor
  · intro alone
    have cut := cut_parts text
    rw [alone] at cut
    obtain ⟨reference, _⟩ := (cut.occurs_iff 0 name).mpr ((holds_zero_iff []).mpr rfl)
    exact ⟨reference, cut.whole.trans (List.append_nil _)⟩
  · rintro ⟨reference, whole⟩
    have cut := Cut.nil.placeholder reference
    rw [List.append_nil, ← whole] at cut
    exact (cut_parts text).unique cut

theorem becomes_iff {part : Part} {piece : List Char} :
    Becomes inputs state part piece ↔ piece = part.filled inputs state := by
  constructor
  · intro becomes
    cases becomes with
    | literal => rfl
    | text found => simp only [Part.filled, found, inlined]
    | @value _ value found other =>
      simp only [Part.filled, found]
      cases value with
      | string => cases other
      | _ => rfl
    | missing absent => simp only [Part.filled, absent]; rfl
  · rintro rfl
    cases part with
    | literal c => exact .literal c
    | placeholder name =>
      dsimp only [Part.filled]
      cases found : Path.lookup name inputs state with
      | none => exact .missing found
      | some value =>
        cases value with
        | string s => exact .text found
        | _ => exact .value found rfl

theorem running_iff {parts : List Part} {filled : List Char} :
    Running inputs state parts filled ↔ filled = parts.flatMap (Part.filled inputs state) := by
  constructor
  · intro running
    induction running with
    | nil => rfl
    | cons becomes _ ih => rw [becomes_iff.mp becomes, ih, List.flatMap_cons]
  · rintro rfl
    induction parts with
    | nil => exact .nil
    | cons part parts ih => exact .cons (becomes_iff.mpr rfl) ih

theorem resolveText_alone (reference : IsReference name.toList) (whole : text.toList = braced name.toList) :
    resolveText inputs state text = (Path.lookup name inputs state).getD (.string text) := by
  rw [resolveText, parts_eq_singleton_iff.mpr ⟨reference, whole⟩]

theorem resolveText_running
    (several : ∀ name : String, IsReference name.toList → text.toList ≠ braced name.toList) :
    resolveText inputs state text =
      .string (String.ofList ((parts text).flatMap (Part.filled inputs state))) := by
  unfold resolveText
  split
  next name alone =>
    obtain ⟨reference, whole⟩ := parts_eq_singleton_iff.mp alone
    exact absurd whole (several name reference)
  next => rfl

theorem filledText_iff {value : Json} :
    FilledText inputs state text value ↔ value = resolveText inputs state text := by
  constructor
  · intro filled
    cases filled with
    | alone reference whole found => rw [resolveText_alone reference whole, found, Option.getD_some]
    | unknown reference whole absent => rw [resolveText_alone reference whole, absent, Option.getD_none]
    | running several cut running =>
      -- There is one way to cut the text, and the scanner's parts are one.
      rw [resolveText_running several, (cut_parts text).unique cut, ← running_iff.mp running, String.ofList_toList]
  · rintro rfl
    by_cases whole : ∃ name : String, IsReference name.toList ∧ text.toList = braced name.toList
    · obtain ⟨name, reference, whole⟩ := whole
      rw [resolveText_alone reference whole]
      cases found : Path.lookup name inputs state with
      | none => exact .unknown reference whole found
      | some value => exact .alone reference whole found
    · have several : ∀ name : String, IsReference name.toList → text.toList ≠ braced name.toList :=
        fun name reference same => whole ⟨name, reference, same⟩
      rw [resolveText_running several]
      refine .running several (cut_parts text) (running_iff.mpr ?_)
      rw [String.toList_ofList]

mutual

theorem filled_resolve (template : Json) : Filled inputs state template (resolve inputs state template) := by
  cases template with
  | string text => exact .string (filledText_iff.mpr rfl)
  | array items => exact .array (filled_resolveItems items)
  | object fields => exact .object (filled_resolveFields fields)
  | null => exact .null
  | bool b => exact .bool b
  | number n => exact .number n

theorem filled_resolveItems (items : List Json) : FilledItems inputs state items (resolveItems inputs state items) := by
  cases items with
  | nil => exact .nil
  | cons item items => exact .cons (filled_resolve item) (filled_resolveItems items)

theorem filled_resolveFields (fields : List (String × Json)) :
    FilledFields inputs state fields (resolveFields inputs state fields) := by
  cases fields with
  | nil => exact .nil
  | cons field fields => exact .cons (filled_resolve field.2) (filled_resolveFields fields)

end

mutual

theorem Filled.eq_resolve {template value : Json} (filled : Filled inputs state template value) :
    value = resolve inputs state template := by
  cases filled with
  | string text => rw [resolve, ← filledText_iff.mp text]
  | array items => rw [resolve, ← items.eq_resolveItems]
  | object fields => rw [resolve, ← fields.eq_resolveFields]
  | null => rfl
  | bool b => rfl
  | number n => rfl

theorem FilledItems.eq_resolveItems {items values : List Json} (filled : FilledItems inputs state items values) :
    values = resolveItems inputs state items := by
  cases filled with
  | nil => rfl
  | cons item items => rw [resolveItems, ← item.eq_resolve, ← items.eq_resolveItems]

theorem FilledFields.eq_resolveFields {fields values : List (String × Json)}
    (filled : FilledFields inputs state fields values) : values = resolveFields inputs state fields := by
  cases filled with
  | nil => rfl
  | cons item fields => rw [resolveFields, ← item.eq_resolve, ← fields.eq_resolveFields]

end

/-- Filling in a template: its placeholders lie apart, and what it becomes is settled by them alone. -/
structure Substituted (inputs state : Dict Json) (template : Json) : Prop where
  disjoint : ∀ (text : String) start next name other, Occurs text.toList start name → Occurs text.toList next other →
    (start = next ∧ name = other) ∨ start + (braced name.toList).length ≤ next ∨
      next + (braced other.toList).length ≤ start
  filled_iff : ∀ value, Filled inputs state template value ↔ resolve inputs state template = value

/-- A text that is one placeholder becomes its value; in any other text each placeholder is replaced where it stands
and all else stays, so that what was put in is not looked at again. -/
theorem substituted (inputs state : Dict Json) (template : Json) : Substituted inputs state template where
  disjoint _ _ _ _ _ first second := first.disjoint second
  filled_iff value := by
    refine ⟨fun filled => filled.eq_resolve.symm, ?_⟩
    rintro rfl
    exact filled_resolve template

/-- A value that looks like a placeholder stays as it is, and so do braces around a placeholder. -/
example (state : Dict Json) :
    resolve (Dict.ofList [("a", .string "\x7bb\x7d")]) state (.string "\x7b\x7ba\x7d \x7b\x7d") =
      .string "\x7b\x7bb\x7d \x7b\x7d" :=
  rfl

end Template

end Orchestra
