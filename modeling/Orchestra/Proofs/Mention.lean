import Orchestra.Proofs.Canonical
import Orchestra.Proofs.Placeholder
import Orchestra.Template.Resolve

namespace Orchestra

/-- One step down into a value: to an item by its number, to a field by its key. -/
inductive Branch where
  | item (index : Nat)
  | field (key : String)

/-- A value stands in another one at the end of a route. -/
inductive Stands : Json → List Branch → Json → Prop
  | here (value : Json) : Stands value [] value
  | item {items : List Json} {index : Nat} {item value : Json} {route : List Branch} :
      items[index]? = some item → Stands item route value → Stands (.array items) (.item index :: route) value
  | field {fields : List (String × Json)} {key : String} {field value : Json} {route : List Branch} :
      (key, field) ∈ fields → Stands field route value → Stands (.object fields) (.field key :: route) value

namespace Json

theorem canonical_of_mem_array {items : List Json} (ordered : (array items).canonical = .array items) :
    ∀ item ∈ items, item.canonical = item := by
  rw [canonical, canonicalItems_eq_map, array.injEq] at ordered
  intro item member
  rw [← ordered] at member
  obtain ⟨origin, _, rfl⟩ := List.mem_map.mp member
  exact canonical_canonical origin

theorem canonical_of_mem_object {fields : List (String × Json)} (ordered : (object fields).canonical = .object fields) :
    Fields.Ascending fields ∧ ∀ field ∈ fields, field.2.canonical = field.2 := by
  rw [canonical, object.injEq] at ordered
  refine ⟨ordered ▸ (Dict.ofList (canonicalFields fields)).ascending, fun field member => ?_⟩
  obtain ⟨origin, _, same⟩ := exists_of_mem_canonicalFields (ordered.symm ▸ member)
  rw [same]
  exact canonical_canonical origin

end Json

namespace Template

/-- A place in a template: the route to a text, and a number of characters into it. -/
structure Place where
  route : List Branch
  start : Nat

namespace Place

def below (branch : Branch) (place : Place) : Place := ⟨branch :: place.route, place.start⟩

/-- The order of reading: a text from left to right, items by their numbers, fields by their keys. -/
inductive Before : Place → Place → Prop
  | text {start next : Nat} : start < next → Before ⟨[], start⟩ ⟨[], next⟩
  | item {i j : Nat} (first second : Place) : i < j → Before (first.below (.item i)) (second.below (.item j))
  | field {k l : String} (first second : Place) : k < l → Before (first.below (.field k)) (second.below (.field l))
  | within (branch : Branch) {first second : Place} : Before first second →
      Before (first.below branch) (second.below branch)

end Place

/-- The placeholder of this name stands in a text of the template. Keys are no texts. -/
def Mentions (template : Json) (place : Place) (name : String) : Prop :=
  ∃ text, Stands template place.route (.string text) ∧ Occurs text.toList place.start name

/-- The first mention of a name comes before every mention of the other. -/
def Leads (template : Json) (name other : String) : Prop :=
  ∃ place, Mentions template place name ∧ ∀ next, Mentions template next other → place.Before next

section Inversion

variable {text name : String} {items : List Json} {fields : List (String × Json)} {place : Place}

theorem mentions_text_iff :
    Mentions (.string text) place name ↔ place.route = [] ∧ Occurs text.toList place.start name := by
  obtain ⟨route, start⟩ := place
  constructor
  · rintro ⟨found, stands, occurs⟩
    cases stands
    exact ⟨rfl, occurs⟩
  · rintro ⟨rfl, occurs⟩
    exact ⟨text, .here _, occurs⟩

theorem mentions_array_iff : Mentions (.array items) place name ↔
    ∃ index item later, items[index]? = some item ∧ place = Place.below (.item index) later ∧
      Mentions item later name := by
  constructor
  · obtain ⟨route, start⟩ := place
    rintro ⟨text, stands, occurs⟩
    cases stands with
    | @item _ index item _ route there deeper =>
      exact ⟨index, item, ⟨route, start⟩, there, rfl, text, deeper, occurs⟩
  · rintro ⟨index, item, later, there, rfl, text, deeper, occurs⟩
    exact ⟨text, .item there deeper, occurs⟩

theorem mentions_object_iff : Mentions (.object fields) place name ↔
    ∃ key value later, (key, value) ∈ fields ∧ place = Place.below (.field key) later ∧
      Mentions value later name := by
  constructor
  · obtain ⟨route, start⟩ := place
    rintro ⟨text, stands, occurs⟩
    cases stands with
    | @field _ key value _ route there deeper =>
      exact ⟨key, value, ⟨route, start⟩, there, rfl, text, deeper, occurs⟩
  · rintro ⟨key, value, later, there, rfl, text, deeper, occurs⟩
    exact ⟨text, .field there deeper, occurs⟩

end Inversion

/-- The placeholders among parts, with the numbers of characters before them. -/
def partSites : Nat → List Part → List (Place × String)
  | _, [] => []
  | start, part :: rest =>
    match part with
    | .literal _ => partSites (start + part.written.length) rest
    | .placeholder name => (⟨[], start⟩, name) :: partSites (start + part.written.length) rest

def siteBelow (branch : Branch) (site : Place × String) : Place × String := (site.1.below branch, site.2)

mutual

/-- The placeholders that a walk through a template comes to, with their places. -/
def sites : Json → List (Place × String)
  | .string text => partSites 0 (parts text)
  | .array items => itemSites 0 items
  | .object fields => fieldSites fields
  | _ => []

/-- The walk through items, the first of which has this number. -/
def itemSites : Nat → List Json → List (Place × String)
  | _, [] => []
  | first, item :: rest => (sites item).map (siteBelow (.item first)) ++ itemSites (first + 1) rest

def fieldSites : List (String × Json) → List (Place × String)
  | [] => []
  | (key, value) :: rest => (sites value).map (siteBelow (.field key)) ++ fieldSites rest

end

section Names

theorem map_partSites (start : Nat) (parts : List Part) :
    (partSites start parts).map Prod.snd = parts.filterMap fun
      | .placeholder name => some name
      | .literal _ => none := by
  induction parts generalizing start with
  | nil => rfl
  | cons part rest ih => cases part <;> simp [partSites, ih]

theorem map_siteBelow (branch : Branch) (found : List (Place × String)) :
    (found.map (siteBelow branch)).map Prod.snd = found.map Prod.snd := by
  rw [List.map_map]
  rfl

mutual

/-- The walk is the one in which the names of a template are collected. -/
theorem map_sites (template : Json) : (sites template).map Prod.snd = allNames template := by
  cases template with
  | string text => exact map_partSites 0 (parts text)
  | array items => exact map_itemSites 0 items
  | object fields => exact map_fieldSites fields
  | _ => rfl

theorem map_itemSites (first : Nat) (items : List Json) :
    (itemSites first items).map Prod.snd = allNamesOfItems items := by
  cases items with
  | nil => rfl
  | cons item rest =>
    rw [itemSites, List.map_append, map_siteBelow, map_sites item, map_itemSites (first + 1) rest, allNamesOfItems]

theorem map_fieldSites (fields : List (String × Json)) :
    (fieldSites fields).map Prod.snd = allNamesOfFields fields := by
  cases fields with
  | nil => rfl
  | cons field rest =>
    rw [fieldSites, List.map_append, map_siteBelow, map_sites field.2, map_fieldSites rest, allNamesOfFields]

end

end Names

section Members

variable {name : String}

theorem mem_map_siteBelow_iff {place : Place} {branch : Branch} {found : List (Place × String)} :
    (place, name) ∈ found.map (siteBelow branch) ↔
      ∃ later, place = later.below branch ∧ (later, name) ∈ found := by
  simp only [List.mem_map, siteBelow, Prod.mk.injEq, Prod.exists]
  constructor
  · rintro ⟨later, _, member, rfl, rfl⟩
    exact ⟨later, rfl, member⟩
  · rintro ⟨later, rfl, member⟩
    exact ⟨later, name, member, rfl, rfl⟩

theorem mem_partSites_iff {place : Place} {start : Nat} {parts : List Part} :
    (place, name) ∈ partSites start parts ↔ ∃ later, place = ⟨[], start + later⟩ ∧ Holds parts later name := by
  induction parts generalizing start with
  | nil =>
    refine iff_of_false List.not_mem_nil ?_
    rintro ⟨_, _, before, after, same, _⟩
    cases before <;> cases same
  | cons part rest ih =>
    simp only [holds_cons_iff]
    have deeper : (place, name) ∈ partSites (start + part.written.length) rest ↔
        ∃ later, place = ⟨[], start + later⟩ ∧
          ∃ more, later = part.written.length + more ∧ Holds rest more name := by
      rw [ih]
      constructor
      · rintro ⟨more, rfl, holds⟩
        exact ⟨_, by rw [Nat.add_assoc], more, rfl, holds⟩
      · rintro ⟨_, rfl, more, rfl, holds⟩
        exact ⟨more, by rw [Nat.add_assoc], holds⟩
    cases part with
    | literal c => simpa [partSites] using deeper
    | placeholder other =>
      rw [partSites, List.mem_cons, deeper]
      constructor
      · rintro (here | ⟨later, same, more⟩)
        · cases here
          exact ⟨0, rfl, .inl ⟨rfl, rfl⟩⟩
        · exact ⟨later, same, .inr more⟩
      · rintro ⟨later, same, ⟨rfl, here⟩ | more⟩
        · cases here
          exact .inl (by rw [same]; rfl)
        · exact .inr ⟨later, same, more⟩

mutual

/-- The walk comes to what a template mentions, and to nothing else. -/
theorem mem_sites_iff {template : Json} {place : Place} : (place, name) ∈ sites template ↔ Mentions template place name := by
  cases template with
  | string text =>
    rw [sites, mem_partSites_iff, mentions_text_iff]
    simp only [Nat.zero_add, ← (cut_parts text).occurs_iff]
    constructor
    · rintro ⟨later, rfl, occurs⟩
      exact ⟨rfl, occurs⟩
    · obtain ⟨route, start⟩ := place
      rintro ⟨rfl, occurs⟩
      exact ⟨start, rfl, occurs⟩
  | array items =>
    rw [sites, mem_itemSites_iff, mentions_array_iff]
    simp only [Nat.zero_add]
  | object fields => rw [sites, mem_fieldSites_iff, mentions_object_iff]
  | _ =>
    refine iff_of_false List.not_mem_nil ?_
    rintro ⟨text, stands, _⟩
    obtain ⟨route, start⟩ := place
    cases stands

theorem mem_itemSites_iff {first : Nat} {items : List Json} {place : Place} :
    (place, name) ∈ itemSites first items ↔ ∃ index item later, items[index]? = some item ∧
      place = Place.below (.item (first + index)) later ∧ Mentions item later name := by
  cases items with
  | nil => simp [itemSites]
  | cons item rest =>
    have own (later : Place) : (later, name) ∈ sites item ↔ Mentions item later name := mem_sites_iff
    simp only [itemSites, List.mem_append, mem_map_siteBelow_iff, own]
    rw [mem_itemSites_iff]
    constructor
    · rintro (⟨later, rfl, mentions⟩ | ⟨index, item, later, there, rfl, mentions⟩)
      · exact ⟨0, item, later, rfl, rfl, mentions⟩
      · exact ⟨index + 1, item, later, there, by rw [Nat.add_assoc, Nat.add_comm 1], mentions⟩
    · rintro ⟨index, item, later, there, rfl, mentions⟩
      cases index with
      | zero =>
        cases there
        exact .inl ⟨later, rfl, mentions⟩
      | succ index => exact .inr ⟨index, item, later, there, by rw [Nat.add_assoc, Nat.add_comm 1], mentions⟩

theorem mem_fieldSites_iff {fields : List (String × Json)} {place : Place} :
    (place, name) ∈ fieldSites fields ↔ ∃ key value later, (key, value) ∈ fields ∧
      place = Place.below (.field key) later ∧ Mentions value later name := by
  cases fields with
  | nil => simp [fieldSites]
  | cons field rest =>
    have own (later : Place) : (later, name) ∈ sites field.2 ↔ Mentions field.2 later name := mem_sites_iff
    simp only [fieldSites, List.mem_append, mem_map_siteBelow_iff, own]
    rw [mem_fieldSites_iff]
    constructor
    · rintro (⟨later, rfl, mentions⟩ | ⟨key, value, later, there, rfl, mentions⟩)
      · exact ⟨field.1, field.2, later, List.mem_cons_self, rfl, mentions⟩
      · exact ⟨key, value, later, List.mem_cons_of_mem _ there, rfl, mentions⟩
    · rintro ⟨key, value, later, there, rfl, mentions⟩
      rcases List.mem_cons.mp there with rfl | inRest
      · exact .inl ⟨later, rfl, mentions⟩
      · exact .inr ⟨key, value, later, inRest, rfl, mentions⟩

end

theorem mem_allNames_iff {template : Json} : name ∈ allNames template ↔ ∃ place, Mentions template place name := by
  simp only [← map_sites, ← mem_sites_iff, List.mem_map, Prod.exists]
  constructor
  · rintro ⟨place, _, member, rfl⟩
    exact ⟨place, member⟩
  · rintro ⟨place, member⟩
    exact ⟨place, name, member, rfl⟩

end Members

section Order

/-- One site comes before another. -/
def Earlier (first second : Place × String) : Prop := first.1.Before second.1

theorem partSites_earlier (start : Nat) (parts : List Part) : (partSites start parts).Pairwise Earlier := by
  induction parts generalizing start with
  | nil => exact .nil
  | cons part rest ih =>
    cases part with
    | literal c => exact ih _
    | placeholder name =>
      refine List.pairwise_cons.mpr ⟨?_, ih _⟩
      rintro ⟨place, other⟩ member
      obtain ⟨later, rfl, _⟩ := mem_partSites_iff.mp member
      have positive := length_written_pos (.placeholder name)
      exact .text (by omega)

theorem map_siteBelow_earlier (branch : Branch) {found : List (Place × String)} (sorted : found.Pairwise Earlier) :
    (found.map (siteBelow branch)).Pairwise Earlier :=
  List.pairwise_map.mpr (sorted.imp (Place.Before.within branch))

mutual

/-- The walk through a template whose objects are in order comes to its places in order. -/
theorem sites_earlier {template : Json} (ordered : template.canonical = template) :
    (sites template).Pairwise Earlier := by
  cases template with
  | string text => exact partSites_earlier 0 (parts text)
  | array items => exact itemSites_earlier 0 (Json.canonical_of_mem_array ordered)
  | object fields =>
    obtain ⟨ascending, each⟩ := Json.canonical_of_mem_object ordered
    exact fieldSites_earlier ascending each
  | _ => exact .nil

theorem itemSites_earlier (first : Nat) {items : List Json} (each : ∀ item ∈ items, item.canonical = item) :
    (itemSites first items).Pairwise Earlier := by
  cases items with
  | nil => exact .nil
  | cons item rest =>
    obtain ⟨own, others⟩ := List.forall_mem_cons.mp each
    have here := map_siteBelow_earlier (.item first) (sites_earlier own)
    refine List.pairwise_append.mpr ⟨here, itemSites_earlier (first + 1) others, ?_⟩
    rintro ⟨place, name⟩ inItem ⟨next, other⟩ inRest
    obtain ⟨start, rfl, _⟩ := mem_map_siteBelow_iff.mp inItem
    obtain ⟨index, _, later, _, rfl, _⟩ := mem_itemSites_iff.mp inRest
    exact .item start later (by omega)

theorem fieldSites_earlier {fields : List (String × Json)} (ascending : Fields.Ascending fields)
    (each : ∀ field ∈ fields, field.2.canonical = field.2) : (fieldSites fields).Pairwise Earlier := by
  cases fields with
  | nil => exact .nil
  | cons field rest =>
    obtain ⟨own, others⟩ := List.forall_mem_cons.mp each
    obtain ⟨least, ascending⟩ := List.pairwise_cons.mp ascending
    have here := map_siteBelow_earlier (.field field.1) (sites_earlier own)
    refine List.pairwise_append.mpr ⟨here, fieldSites_earlier ascending others, ?_⟩
    rintro ⟨place, name⟩ inField ⟨next, other⟩ inRest
    obtain ⟨start, rfl, _⟩ := mem_map_siteBelow_iff.mp inField
    obtain ⟨key, value, later, member, rfl, _⟩ := mem_fieldSites_iff.mp inRest
    exact .field start later (least key (List.mem_map_of_mem member))

end

end Order

end Template

end Orchestra
