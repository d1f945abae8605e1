import Orchestra.Json.Record
import Mathlib.Data.List.Forall2

namespace Orchestra

/-- A field of a record: the names it goes by, whether it has to be there, and whether it may be null. -/
structure Field where
  names : List String
  needed : Bool := false
  nullable : Bool := false

/-- The values under the names of a field. -/
def Field.values (field : Field) (members : List (String × Json)) : List Json :=
  (members.filter fun member => field.names.contains member.1).map Prod.snd

/-- A value spells a record whose fields have these values. Other members of an object do not matter; an array
may end before fields that have none. -/
inductive Record (fields : List Field) (slots : List (Option Json)) : Json → Prop
  | object {members : List (String × Json)} :
      List.Forall₂ (fun field slot => field.values members = slot.toList) fields slots →
      Record fields slots (.object members)
  | array {items : List Json} {left : Nat} : slots = items.map some ++ List.replicate left none →
      slots.length = fields.length → Record fields slots (.array items)

/-- A value holds another in a field of these names, or at this place if it is an array. -/
inductive At (names : List String) (place : Nat) (w : Json) : Json → Prop
  | member {members : List (String × Json)} {name : String} : name ∈ names → (name, w) ∈ members →
      At names place w (.object members)
  | item {items : List Json} : items[place]? = some w → At names place w (.array items)

/-- What keeps a value from being a record. -/
inductive Flawed (fields : List Field) : Json → Prop
  | lacking {v : Json} {place : Nat} {field : Field} : fields[place]? = some field → field.needed = true →
      (∀ w, ¬ At field.names place w v) → Flawed fields v
  | overlong {items : List Json} : fields.length < items.length → Flawed fields (.array items)
  | null {v : Json} {place : Nat} {field : Field} : fields[place]? = some field → field.nullable = false →
      At field.names place .null v → Flawed fields v
  | doubled {members : List (String × Json)} {field : Field} {name other : String} {first second : Json} :
      field ∈ fields → name ∈ field.names → other ∈ field.names → name ≠ other → (name, first) ∈ members →
      (other, second) ∈ members → Flawed fields (.object members)

namespace Document

theorem ofJsonItems_eq_map (items : List Json) : ofJsonItems items = items.map ofJson := by
  induction items with
  | nil => rfl
  | cons item items ih => rw [ofJsonItems, ih, List.map_cons]

mutual

theorem toJson?_ofJson (w : Json) : (ofJson w).toJson? none = some w.canonical := by
  cases w with
  | array items =>
    rw [ofJson, toJson?, if_neg nofun, Option.map_none, itemsToJson?_ofJsonItems items, Json.canonical]
    rfl
  | object members =>
    rw [ofJson, toJson?, if_neg nofun, Option.map_none, membersToJson?_ofJsonFields members, Json.canonical]
    rfl
  | _ => rfl

theorem itemsToJson?_ofJsonItems (items : List Json) :
    itemsToJson? none (ofJsonItems items) = some (Json.canonicalItems items) := by
  cases items with
  | nil => rfl
  | cons item items =>
    rw [ofJsonItems, itemsToJson?, toJson?_ofJson item, itemsToJson?_ofJsonItems items, Json.canonicalItems]

theorem membersToJson?_ofJsonFields (members : List (String × Json)) :
    membersToJson? none (ofJsonFields members) = some (Json.canonicalFields members) := by
  cases members with
  | nil => rfl
  | cons member members =>
    simp only [ofJsonFields, membersToJson?, toJson?_ofJson member.2, membersToJson?_ofJsonFields members,
      Json.canonicalFields]

end

end Document

namespace RecordForm

variable {form : RecordForm} {name : String} {i : Nat}

/-- No name is one of two fields. -/
def Distinct (form : RecordForm) : Prop := form.Pairwise fun names others => ∀ name ∈ names, name ∉ others

instance : Decidable form.Distinct := inferInstanceAs (Decidable (List.Pairwise _ form))

theorem position?_eq_some_iff (distinct : form.Distinct) :
    form.position? name = some i ↔ ∃ names, form[i]? = some names ∧ name ∈ names := by
  rw [position?, List.findIdx?_eq_some_iff_getElem]
  constructor
  · rintro ⟨inside, here, _⟩
    exact ⟨form[i], List.getElem?_eq_getElem inside, List.contains_iff_mem.mp here⟩
  · rintro ⟨names, found, member⟩
    obtain ⟨inside, rfl⟩ := List.getElem?_eq_some_iff.mp found
    refine ⟨inside, List.contains_iff_mem.mpr member, fun j before other => ?_⟩
    exact List.pairwise_iff_getElem.mp distinct j i _ inside before name (List.contains_iff_mem.mp other) member

/-- The members that go into a slot. -/
def inSlot (form : RecordForm) (i : Nat) (members : List (String × Json)) : List Json :=
  (members.filter fun member => form.position? member.1 = some i).map Prod.snd

theorem inSlot_cons (form : RecordForm) (i : Nat) (key : String) (w : Json) (members : List (String × Json)) :
    form.inSlot i ((key, w) :: members) =
      if form.position? key = some i then w :: form.inSlot i members else form.inSlot i members := by
  unfold inSlot
  split <;> simp_all

theorem inSlot_eq_values {fields : List Field} {field : Field} (distinct : Distinct (fields.map Field.names))
    (found : fields[i]? = some field) (members : List (String × Json)) :
    inSlot (fields.map Field.names) i members = field.values members := by
  have same (key : String) :
      decide (position? (fields.map Field.names) key = some i) = field.names.contains key := by
    rw [Bool.eq_iff_iff, decide_eq_true_iff, position?_eq_some_iff distinct, List.contains_iff_mem]
    simp [found]
  simp only [inSlot, Field.values, same]

theorem position?_lt (found : form.position? name = some i) : i < form.length :=
  (List.findIdx?_eq_some_iff_getElem.mp found).1

/-- Filling succeeds if and only if each slot gets one value at most, counting the one it had. -/
theorem fill_eq_some_iff {members : List (String × Json)} {slots out : List (Option Document)}
    (long : slots.length = form.length) :
    form.fill (Document.ofJsonFields members) slots = some out ↔ out.length = slots.length ∧
      ∀ i < slots.length, slots[i]?.join.toList ++ (form.inSlot i members).map .ofJson = out[i]?.join.toList := by
  induction members generalizing slots with
  | nil =>
    simp only [Document.ofJsonFields, fill, inSlot, List.filter_nil, List.map_nil, List.append_nil,
      Option.some.injEq]
    constructor
    · rintro rfl
      exact ⟨rfl, fun _ _ => rfl⟩
    · rintro ⟨same, agree⟩
      refine List.ext_getElem same.symm fun i inside inside' => ?_
      have here := agree i inside
      simp only [List.getElem?_eq_getElem inside, List.getElem?_eq_getElem inside', Option.join_some] at here
      cases slot : slots[i] <;> cases slot' : out[i] <;> simp_all
  | cons member members ih =>
    obtain ⟨key, w⟩ := member
    rw [Document.ofJsonFields, fill]
    cases position : form.position? key with
    | none => simp [ih long, inSlot_cons, position]
    | some j =>
      have inside : j < slots.length := long ▸ position?_lt position
      dsimp only
      split
      next taken occupied =>
        refine iff_of_false nofun fun ⟨_, agree⟩ => ?_
        -- A slot has room for one value, and here two are to go into it.
        have both := congrArg List.length (agree j inside)
        rw [occupied, inSlot_cons, if_pos position, List.length_append, List.map_cons, List.length_cons,
          Option.toList_some, List.length_singleton] at both
        have room : out[j]?.join.toList.length ≤ 1 := Option.length_toList_le
        omega
      next free =>
        rw [ih (by rw [List.length_set, long]), List.length_set]
        refine and_congr_right fun _ => forall₂_congr fun i below => ?_
        rw [inSlot_cons, position]
        by_cases same : j = i
        · subst same
          rw [if_pos rfl, List.getElem?_set_self inside, free]
          rfl
        · simp [same]

/-- The values of the fields, one for each field at most. -/
theorem fill_fields_iff {fields : List Field} {members : List (String × Json)} {out : List (Option Document)}
    (distinct : Distinct (fields.map Field.names)) :
    fill (fields.map Field.names) (Document.ofJsonFields members)
        (List.replicate (fields.map Field.names).length none) = some out ↔
      List.Forall₂ (fun field slot => (field.values members).map .ofJson = slot.toList) fields out := by
  rw [fill_eq_some_iff List.length_replicate, List.forall₂_iff_get, List.length_replicate, List.length_map, eq_comm]
  refine and_congr_right fun same => forall_congr' fun i => ?_
  have here (inside : i < fields.length) :=
    inSlot_eq_values distinct (List.getElem?_eq_getElem inside) members
  constructor
  · intro agree inside inside'
    have := agree inside
    rw [here inside] at this
    simpa [inside, inside'] using this
  · intro agree inside
    have := agree inside (same ▸ inside)
    rw [here inside]
    simpa [inside, same ▸ inside] using this

end RecordForm

section Reading

variable {fields : List Field} {slots : List (Option Json)} {members : List (String × Json)} {v : Json}

theorem record_object_iff : Record fields slots (.object members) ↔
    List.Forall₂ (fun field slot => field.values members = slot.toList) fields slots :=
  ⟨fun (.object under) => under, .object⟩

theorem record_array_iff {items : List Json} : Record fields slots (.array items) ↔
    ∃ left, slots = items.map some ++ List.replicate left none ∧ slots.length = fields.length :=
  ⟨fun (.array same long) => ⟨_, same, long⟩, fun ⟨_, same, long⟩ => .array same long⟩

theorem documents_iff {docs : List (Option Document)} :
    List.Forall₂ (fun field slot => (field.values members).map Document.ofJson = slot.toList) fields docs ↔
      ∃ slots, Record fields slots (.object members) ∧ docs = slots.map (Option.map .ofJson) := by
  simp only [record_object_iff]
  constructor
  · intro filled
    induction filled with
    | nil => exact ⟨[], .nil, rfl⟩
    | @cons field doc fields docs here _ ih =>
      obtain ⟨slots, rest, rfl⟩ := ih
      cases doc with
      | none => exact ⟨none :: slots, .cons (List.map_eq_nil_iff.mp here) rest, rfl⟩
      | some doc =>
        obtain ⟨w, single, rfl⟩ := List.map_eq_singleton_iff.mp here
        exact ⟨some w :: slots, .cons single rest, rfl⟩
  · rintro ⟨slots, under, rfl⟩
    refine List.forall₂_map_right_iff.mpr (under.imp fun field slot same => ?_)
    rw [same]
    cases slot <;> rfl

/-- Records are read field by field. -/
theorem slots?_ofJson_eq_some_iff {docs : List (Option Document)}
    (distinct : RecordForm.Distinct (fields.map Field.names)) :
    RecordForm.slots? (fields.map Field.names) false (.ofJson v) = some docs ↔
      ∃ slots, Record fields slots v ∧ docs = slots.map (Option.map .ofJson) := by
  cases v with
  | array items =>
    rw [Document.ofJson, RecordForm.slots?, Document.ofJsonItems_eq_map, List.length_map, List.length_map]
    simp only [record_array_iff, Bool.false_eq_true, or_false]
    constructor
    · intro read
      split at read
      next fits =>
        cases read
        refine ⟨items.map some ++ List.replicate (fields.length - items.length) none, ⟨_, rfl, ?_⟩, ?_⟩
        · simp [Nat.add_sub_cancel' fits]
        · rw [List.take_of_length_le (by simpa using fits)]
          simp
      next => cases read
    · rintro ⟨slots, ⟨left, rfl, long⟩, rfl⟩
      rw [List.length_append, List.length_map, List.length_replicate] at long
      rw [if_pos (Nat.le.intro long), List.take_of_length_le (by rw [List.length_map]; exact Nat.le.intro long),
        ← long, Nat.add_sub_cancel_left]
      simp
  | object members => rw [Document.ofJson, RecordForm.slots?, RecordForm.fill_fields_iff distinct, documents_iff]
  | _ => exact iff_of_false nofun fun ⟨_, record, _⟩ => nomatch record

theorem Record.slots?_ofJson (record : Record fields slots v)
    (distinct : RecordForm.Distinct (fields.map Field.names)) :
    RecordForm.slots? (fields.map Field.names) false (.ofJson v) = some (slots.map (Option.map .ofJson)) :=
  (slots?_ofJson_eq_some_iff distinct).mpr ⟨slots, record, rfl⟩

theorem Record.length_eq (record : Record fields slots v) : fields.length = slots.length := by
  cases record with
  | object under => exact under.length_eq
  | array _ long => exact long.symm

theorem Field.mem_values_iff {field : Field} {w : Json} :
    w ∈ field.values members ↔ ∃ name ∈ field.names, (name, w) ∈ members := by
  simp [Field.values, and_comm]

/-- What a record holds in a field is the value of that field. -/
theorem Record.at_iff (record : Record fields slots v) (place : Nat) {field : Field} {slot : Option Json}
    (here : fields[place]? = some field) (there : slots[place]? = some slot) (w : Json) :
    At field.names place w v ↔ slot = some w := by
  obtain ⟨inside, rfl⟩ := List.getElem?_eq_some_iff.mp here
  obtain ⟨inside', rfl⟩ := List.getElem?_eq_some_iff.mp there
  cases record with
  | @object members under =>
    have own : fields[place].values members = slots[place].toList := under.get inside inside'
    rw [← Option.mem_toList, ← own, Field.mem_values_iff]
    constructor
    · rintro ⟨named, member⟩
      exact ⟨_, named, member⟩
    · rintro ⟨name, named, member⟩
      exact .member named member
  | @array items left same _ =>
    subst same
    have item : At fields[place].names place w (.array items) ↔ items[place]? = some w :=
      ⟨fun (.item found) => found, .item⟩
    rw [item]
    by_cases within : place < items.length
    · rw [List.getElem_append_left (by simpa using within), List.getElem?_eq_getElem within, List.getElem_map]
    · rw [List.getElem_append_right (by simpa using within), List.getElem_replicate,
        List.getElem?_eq_none (Nat.not_lt.mp within)]

/-- A slot that suits its field. -/
def Field.Allows (field : Field) (slot : Option Json) : Prop :=
  (field.needed = true → slot ≠ none) ∧ (field.nullable = false → slot ≠ some .null)

/-- A record whose slots suit its fields has no flaw. -/
theorem Record.not_flawed (record : Record fields slots v) (allowed : List.Forall₂ Field.Allows fields slots) :
    ¬ Flawed fields v := by
  -- What the field at a place allows is what stands in its slot.
  have slotOf {place : Nat} {field : Field} (here : fields[place]? = some field) :
      ∃ slot, slots[place]? = some slot ∧ field.Allows slot := by
    obtain ⟨inside, rfl⟩ := List.getElem?_eq_some_iff.mp here
    have inside' : place < slots.length := record.length_eq ▸ inside
    exact ⟨slots[place], List.getElem?_eq_getElem inside', allowed.get inside inside'⟩
  intro flawed
  cases flawed with
  | lacking here needed nowhere =>
    obtain ⟨slot, there, allows, _⟩ := slotOf here
    obtain ⟨w, rfl⟩ := Option.ne_none_iff_exists'.mp (allows needed)
    exact nowhere w ((record.at_iff _ here there w).mpr rfl)
  | @overlong items long =>
    obtain ⟨left, rfl, short⟩ := record_array_iff.mp record
    rw [List.length_append, List.length_map] at short
    omega
  | null here strict null =>
    obtain ⟨slot, there, _, allows⟩ := slotOf here
    exact allows strict ((record.at_iff _ here there .null).mp null)
  | @doubled members field name other first second member named named' different first' second' =>
    obtain ⟨place, inside, rfl⟩ := List.getElem_of_mem member
    have inside' : place < slots.length := record.length_eq ▸ inside
    have own : fields[place].values members = slots[place].toList :=
      (record_object_iff.mp record).get inside inside'
    rw [Field.values] at own
    have under : (name, first) ∈ members.filter fun member => fields[place].names.contains member.1 :=
      List.mem_filter.mpr ⟨first', List.contains_iff_mem.mpr named⟩
    have under' : (other, second) ∈ members.filter fun member => fields[place].names.contains member.1 :=
      List.mem_filter.mpr ⟨second', List.contains_iff_mem.mpr named'⟩
    -- Only one member stands in the slot.
    cases slot : slots[place] with
    | none =>
      rw [slot, Option.toList_none, List.map_eq_nil_iff] at own
      rw [own] at under
      cases under
    | some w =>
      rw [slot, Option.toList_some] at own
      obtain ⟨only, single, _⟩ := List.map_eq_singleton_iff.mp own
      rw [single, List.mem_singleton] at under under'
      exact different (congrArg Prod.fst (under.trans under'.symm))

end Reading

section Values

variable {α : Type} {read : Document → Option α} {spelled : α → Json → Prop}

/-- The spellings are the values that the reader takes. -/
def Reads (read : Document → Option α) (spelled : α → Json → Prop) : Prop :=
  ∀ w a, read (.ofJson w) = some a ↔ spelled a w

def IsText (text : String) (w : Json) : Prop := w = .string text

/-- A free value is spelled by itself, in any order of its members. -/
def IsFree (value w : Json) : Prop := w.canonical = value

/-- Null for none, and else a spelling. -/
inductive Nullable (spelled : α → Json → Prop) : Option α → Json → Prop
  | null : Nullable spelled none .null
  | given {a : α} {w : Json} : spelled a w → Nullable spelled (some a) w

inductive Listed (spelled : α → Json → Prop) (values : List α) : Json → Prop
  | array {items : List Json} : List.Forall₂ spelled values items → Listed spelled values (.array items)

/-- The slot of a field that has to be there. -/
inductive Required (spelled : α → Json → Prop) (a : α) : Option Json → Prop
  | given {w : Json} : spelled a w → Required spelled a (some w)

/-- The slot of a field that may be left out where it has its fallback. -/
inductive Optional (spelled : α → Json → Prop) (fallback a : α) : Option Json → Prop
  | omitted : a = fallback → Optional spelled fallback a none
  | given {w : Json} : spelled a w → Optional spelled fallback a (some w)

theorem reads_text : Reads Document.string? IsText := by
  intro w text
  cases w with
  | string s => simp [Document.ofJson, Document.string?, IsText]
  | _ => exact iff_of_false nofun nofun

theorem reads_free (level : Nat) : Reads (Medium.memory.free? level) IsFree := by
  intro w value
  have free : Medium.memory.free? level (.ofJson w) = some w.canonical := Document.toJson?_ofJson w
  rw [free, Option.some.injEq, IsFree]

theorem Reads.nullable (reads : Reads read spelled) (strict : ∀ a, ¬ spelled a .null) :
    Reads (Document.nullable? read) (Nullable spelled) := by
  intro w a
  have others (some' : w ≠ .null) : (read (.ofJson w)).map some = some a ↔ Nullable spelled a w := by
    constructor
    · intro found
      obtain ⟨inner, own, rfl⟩ := Option.map_eq_some_iff.mp found
      exact .given ((reads w inner).mp own)
    · rintro (_ | given)
      · exact absurd rfl some'
      · rw [(reads _ _).mpr given]
        rfl
  cases w with
  | null =>
    constructor
    · rintro ⟨⟩
      exact .null
    · rintro (_ | given)
      · rfl
      · exact absurd given (strict _)
  | _ => exact others nofun

theorem Reads.listed (reads : Reads read spelled) : Reads (Document.array? read) (Listed spelled) := by
  intro w values
  cases w with
  | array items =>
    have each : (items.map Document.ofJson).mapM read = some values ↔ List.Forall₂ spelled values items := by
      induction items generalizing values with
      | nil => simp [eq_comm]
      | cons item items ih =>
        simp only [List.map_cons, List.mapM_cons, Option.bind_eq_bind, Option.bind_eq_some_iff, ih, reads item,
          List.forall₂_cons_right_iff]
        constructor
        · rintro ⟨first, own, others, rest, ⟨⟩⟩
          exact ⟨first, others, own, rest, rfl⟩
        · rintro ⟨first, others, own, rest, rfl⟩
          exact ⟨first, own, others, rest, rfl⟩
    rw [Document.ofJson, Document.array?, Document.ofJsonItems_eq_map, each]
    exact ⟨.array, fun (.array all) => all⟩
  | _ => exact iff_of_false nofun nofun

theorem Reads.required_iff (reads : Reads read spelled) (slot : Option Json) (a : α) :
    Document.required? read (slot.map .ofJson) = some a ↔ Required spelled a slot := by
  cases slot with
  | none => exact iff_of_false nofun nofun
  | some w => exact (reads w a).trans ⟨.given, fun (.given given) => given⟩

theorem Reads.optional_iff (reads : Reads read spelled) (fallback : α) (slot : Option Json) (a : α) :
    Document.optional? read fallback (slot.map .ofJson) = some a ↔ Optional spelled fallback a slot := by
  cases slot with
  | none =>
    refine ⟨fun same => .omitted (Option.some.inj same).symm, fun (.omitted same) => ?_⟩
    rw [same]
    rfl
  | some w => exact (reads w a).trans ⟨.given, fun (.given given) => given⟩

theorem exists_of_forall₂ {β γ : Type} {R : β → γ → Prop} {bs : List β} {cs : List γ} {b : β}
    (all : List.Forall₂ R bs cs) (member : b ∈ bs) : ∃ c, R b c := by
  induction all with
  | nil => cases member
  | cons own _ ih =>
    rcases List.mem_cons.mp member with rfl | later
    · exact ⟨_, own⟩
    · exact ih later

theorem Listed.exists_of_mem {values : List α} {items : List Json} {item : Json}
    (listed : Listed spelled values (.array items)) (member : item ∈ items) : ∃ a, spelled a item := by
  obtain ⟨all⟩ := listed
  exact exists_of_forall₂ (R := flip spelled) all.flip member

theorem Listed.exists_of_mem_values {values : List α} {w : Json} {a : α} (listed : Listed spelled values w)
    (member : a ∈ values) : ∃ item, spelled a item := by
  obtain ⟨all⟩ := listed
  exact exists_of_forall₂ all member

theorem Listed.of_map {values : List α} {toJson : α → Json} (each : ∀ a ∈ values, spelled a (toJson a)) :
    Listed spelled values (.array (values.map toJson)) :=
  .array (List.forall₂_map_right_iff.mpr (List.forall₂_same.mpr each))

theorem Required.allows {field : Field} {slot : Option Json} {a : α} (strict : ∀ a, ¬ spelled a .null)
    (required : Required spelled a slot) : field.Allows slot := by
  obtain ⟨given⟩ := required
  refine ⟨fun _ => nofun, fun _ null => ?_⟩
  cases null
  exact strict a given

theorem Optional.allows {field : Field} {slot : Option Json} {fallback a : α} (optional : Optional spelled fallback a slot)
    (lenient : field.needed = false) (strict : field.nullable = false → ∀ a, ¬ spelled a .null) :
    field.Allows slot := by
  refine ⟨fun needed => absurd (lenient.symm.trans needed) nofun, fun given null => ?_⟩
  subst null
  obtain _ | spelled := optional
  exact strict given a spelled

end Values

end Orchestra
