namespace Orchestra

universe u v

namespace Fields

variable {α : Type u} {β : Type v}

/-- The value of the first entry with this key. -/
def get? : List (String × α) → String → Option α
  | [], _ => none
  | (k, v) :: rest, key => if k = key then some v else get? rest key

/-- Writes one entry into a list of ascending keys, in the place of an entry of that key. -/
def insert : List (String × α) → String → α → List (String × α)
  | [], key, value => [(key, value)]
  | (k, v) :: rest, key, value =>
    if key < k then (key, value) :: (k, v) :: rest
    else if key = k then (key, value) :: rest
    else (k, v) :: insert rest key value

/-- The keys of the list ascend strictly, in the order of Unicode scalar values. -/
def Ascending (entries : List (String × α)) : Prop :=
  (entries.map Prod.fst).Pairwise (· < ·)

theorem mem_keys_insert {entries : List (String × α)} {key other : String} {value : α} :
    other ∈ (insert entries key value).map Prod.fst ↔ other = key ∨ other ∈ entries.map Prod.fst := by
  induction entries with
  | nil => simp [insert]
  | cons entry rest ih =>
    obtain ⟨k, v⟩ := entry
    unfold insert
    split
    · simp
    · split
      · subst key
        simp
      · simp only [List.map_cons, List.mem_cons, ih]
        grind

theorem Ascending.insert {entries : List (String × α)} (ascending : Ascending entries) (key : String)
    (value : α) : Ascending (insert entries key value) := by
  induction entries with
  | nil => simp [Fields.insert, Ascending]
  | cons entry rest ih =>
    obtain ⟨k, v⟩ := entry
    have parts := List.pairwise_cons.mp ascending
    unfold Fields.insert
    split
    next lower =>
      refine List.pairwise_cons.mpr ⟨?_, ascending⟩
      intro other member
      rcases List.mem_cons.mp member with equal | inRest
      · exact equal ▸ lower
      · exact String.lt_trans lower (parts.1 other inRest)
    next notLower =>
      split
      next equal =>
        subst key
        exact List.pairwise_cons.mpr parts
      next different =>
        refine List.pairwise_cons.mpr ⟨?_, ih parts.2⟩
        intro other member
        rcases mem_keys_insert.mp member with equal | inRest
        · subst other
          have atMost : k ≤ key := String.not_lt.mp notLower
          exact String.not_le.mp fun least => different (String.le_antisymm least atMost)
        · exact parts.1 other inRest

theorem get?_insert (entries : List (String × α)) (key other : String) (value : α) :
    get? (insert entries key value) other = if key = other then some value else get? entries other := by
  induction entries with
  | nil => simp [insert, get?]
  | cons entry rest ih =>
    obtain ⟨k, v⟩ := entry
    unfold insert
    split
    · simp [get?]
    · split
      · subst key
        by_cases same : k = other <;> simp [get?, same]
      · by_cases same : k = other
        · subst other
          simp_all [get?]
        · simp only [get?, if_neg same, ih]

theorem mem_keys_iff {entries : List (String × α)} {key : String} :
    key ∈ entries.map Prod.fst ↔ (get? entries key).isSome = true := by
  induction entries with
  | nil => simp [get?]
  | cons entry rest ih =>
    obtain ⟨k, v⟩ := entry
    by_cases same : k = key
    · simp [get?, same]
    · simp [get?, if_neg same, ih, Ne.symm same]

theorem get?_of_ascending {entries : List (String × α)} {k key : String} {v : α}
    (ascending : Ascending ((k, v) :: entries)) (atMost : ¬ k < key) : get? entries key = none := by
  rw [← Option.not_isSome_iff_eq_none, ← mem_keys_iff]
  exact fun member => atMost ((List.pairwise_cons.mp ascending).1 key member)

theorem Ascending.mem_iff {entries : List (String × α)} (ascending : Ascending entries) {key : String} {value : α} :
    (key, value) ∈ entries ↔ get? entries key = some value := by
  induction entries with
  | nil => exact iff_of_false List.not_mem_nil nofun
  | cons entry rest ih =>
    obtain ⟨k, v⟩ := entry
    rw [List.mem_cons, ih (List.pairwise_cons.mp ascending).2, get?]
    by_cases same : k = key
    · subst same
      rw [if_pos rfl, get?_of_ascending ascending (String.lt_irrefl k)]
      simp [eq_comm]
    · rw [if_neg same]
      simp [Ne.symm same]

/-- The first key is the least one that is found. -/
theorem not_lt_of_get?_eq {entries others : List (String × α)} {k k' : String} {v v' : α}
    (ascending : Ascending ((k', v') :: others))
    (same : ∀ key, get? ((k, v) :: entries) key = get? ((k', v') :: others) key) : ¬ k < k' := by
  intro lower
  have different : k' ≠ k := fun equal => String.lt_irrefl k (equal ▸ lower)
  have found := same k
  rw [get?, if_pos rfl, get?, if_neg different,
    get?_of_ascending ascending fun back => String.lt_irrefl k (String.lt_trans lower back)] at found
  cases found

/-- Entries in ascending order are known by what is found in them. -/
theorem eq_of_get?_eq {entries others : List (String × α)} (ascending : Ascending entries)
    (ascending' : Ascending others) (same : ∀ key, get? entries key = get? others key) : entries = others := by
  induction entries generalizing others with
  | nil =>
    cases others with
    | nil => rfl
    | cons other rest => simpa [get?] using same other.1
  | cons entry rest ih =>
    obtain ⟨k, v⟩ := entry
    cases others with
    | nil => simpa [get?] using same k
    | cons other rest' =>
      obtain ⟨k', v'⟩ := other
      have first : k = k' := String.le_antisymm
        (String.not_lt.mp (not_lt_of_get?_eq ascending fun key => (same key).symm))
        (String.not_lt.mp (not_lt_of_get?_eq ascending' same))
      subst first
      have value : v = v' := by simpa [get?] using same k
      subst value
      have tails (key : String) : get? rest key = get? rest' key := by
        by_cases here : k = key
        · subst here
          rw [get?_of_ascending ascending (String.lt_irrefl k), get?_of_ascending ascending' (String.lt_irrefl k)]
        · simpa [get?, here] using same key
      rw [ih (List.pairwise_cons.mp ascending).2 (List.pairwise_cons.mp ascending').2 tails]

/-- The value of the last entry with this key. -/
def Last (entries : List (String × α)) (key : String) (value : α) : Prop :=
  ∃ before after, entries = before ++ (key, value) :: after ∧ key ∉ after.map Prod.fst

theorem exists_last_iff {entries : List (String × α)} {key : String} :
    (∃ value, Last entries key value) ↔ key ∈ entries.map Prod.fst := by
  constructor
  · rintro ⟨value, before, after, rfl, _⟩
    simp
  · intro member
    induction entries with
    | nil => cases member
    | cons entry rest ih =>
      by_cases later : key ∈ rest.map Prod.fst
      · obtain ⟨value, before, after, rfl, absent⟩ := ih later
        exact ⟨value, entry :: before, after, rfl, absent⟩
      · rw [List.map_cons, List.mem_cons] at member
        obtain rfl := member.resolve_right later
        exact ⟨entry.2, [], rest, rfl, later⟩

end Fields

section Ascending

variable {keys others : List String}

theorem nodup_of_ascending (ascending : keys.Pairwise (· < ·)) : keys.Nodup :=
  ascending.imp fun {k k'} (lower : k < k') (same : k = k') => String.lt_irrefl k' (same ▸ lower)

/-- Keys in ascending order are known by their members. -/
theorem eq_of_ascending (ascending : keys.Pairwise (· < ·)) (ascending' : others.Pairwise (· < ·))
    (same : ∀ key, key ∈ keys ↔ key ∈ others) : keys = others := by
  have perm : keys.Perm others :=
    (List.perm_ext_iff_of_nodup (nodup_of_ascending ascending) (nodup_of_ascending ascending')).mpr same
  refine perm.eq_of_pairwise (fun k k' _ _ lower upper => ?_) ascending ascending'
  exact absurd (String.lt_trans lower upper) (String.lt_irrefl k)

end Ascending

/-- The keys with a property, in ascending order, each once. -/
structure Enumerates (keys : List String) (holds : String → Prop) : Prop where
  ascending : keys.Pairwise (· < ·)
  mem_iff : ∀ key, key ∈ keys ↔ holds key

theorem Enumerates.unique {keys others : List String} {holds : String → Prop} (first : Enumerates keys holds)
    (second : Enumerates others holds) : keys = others :=
  eq_of_ascending first.ascending second.ascending fun key => by rw [first.mem_iff, second.mem_iff]

/-- A dictionary: entries in strictly ascending key order. -/
structure Dict (α : Type u) where
  entries : List (String × α)
  ascending : Fields.Ascending entries
deriving DecidableEq

namespace Dict

variable {α : Type u} {β : Type v}

def empty : Dict α := ⟨[], List.Pairwise.nil⟩

instance : EmptyCollection (Dict α) := ⟨empty⟩

instance : Inhabited (Dict α) := ⟨empty⟩

def get? (d : Dict α) (key : String) : Option α := Fields.get? d.entries key

def contains (d : Dict α) (key : String) : Bool := (d.get? key).isSome

def insert (d : Dict α) (key : String) (value : α) : Dict α :=
  ⟨Fields.insert d.entries key value, d.ascending.insert key value⟩

/-- Writes entries one after another, so that the last entry of a key stands. -/
def extend (d : Dict α) (entries : List (String × α)) : Dict α :=
  entries.foldl (fun d entry => d.insert entry.1 entry.2) d

def ofList (entries : List (String × α)) : Dict α := empty.extend entries

/-- The keys, in ascending order. -/
def keys (d : Dict α) : List String := d.entries.map Prod.fst

def values (d : Dict α) : List α := d.entries.map Prod.snd

def size (d : Dict α) : Nat := d.entries.length

def isEmpty (d : Dict α) : Bool := d.entries.isEmpty

/-- Changes values and keeps keys. -/
def map (f : α → β) (d : Dict α) : Dict β where
  entries := d.entries.map fun entry => (entry.1, f entry.2)
  ascending := by
    have keep := d.ascending
    simpa [Fields.Ascending, Function.comp_def] using keep

theorem get?_empty (key : String) : (empty : Dict α).get? key = none := rfl

theorem get?_insert (d : Dict α) (key other : String) (value : α) :
    (d.insert key value).get? other = if key = other then some value else d.get? other :=
  Fields.get?_insert d.entries key other value

theorem keys_ascending (d : Dict α) : d.keys.Pairwise (· < ·) := d.ascending

theorem mem_keys_iff {d : Dict α} {key : String} : key ∈ d.keys ↔ (d.get? key).isSome = true :=
  Fields.mem_keys_iff

theorem keys_eq_of_isSome {d : Dict α} {other : Dict β}
    (same : ∀ key, (d.get? key).isSome = (other.get? key).isSome) : d.keys = other.keys :=
  eq_of_ascending d.keys_ascending other.keys_ascending fun key => by rw [mem_keys_iff, mem_keys_iff, same]

/-- Written over a dictionary, entries with distinct keys are found before those that were there. -/
theorem get?_extend {entries : List (String × α)} (ascending : Fields.Ascending entries) (d : Dict α)
    (key : String) : (d.extend entries).get? key = (Fields.get? entries key).or (d.get? key) := by
  induction entries generalizing d with
  | nil => rfl
  | cons entry rest ih =>
    obtain ⟨k, v⟩ := entry
    have parts := List.pairwise_cons.mp ascending
    rw [extend, List.foldl_cons]
    refine (ih parts.2 (d.insert k v)).trans ?_
    rw [get?_insert, Fields.get?]
    by_cases same : k = key
    · subst same
      have absent : Fields.get? rest k = none := by
        rw [← Option.not_isSome_iff_eq_none, ← Fields.mem_keys_iff]
        exact fun member => String.lt_irrefl k (parts.1 k member)
      rw [if_pos rfl, if_pos rfl, absent]
      rfl
    · rw [if_neg same, if_neg same]

section Extend

variable {entries : List (String × α)} {key : String} {value : α}

theorem get?_extend_of_notMem (absent : key ∉ entries.map Prod.fst) (d : Dict α) : (d.extend entries).get? key = d.get? key := by
  induction entries generalizing d with
  | nil => rfl
  | cons entry rest ih =>
    rw [List.map_cons, List.mem_cons, not_or] at absent
    have later := ih absent.2 (d.insert entry.1 entry.2)
    rw [get?_insert, if_neg (Ne.symm absent.1)] at later
    exact later

/-- What is found after entries were written is one of them, or was there before. -/
theorem mem_of_get?_extend {d : Dict α} (found : (d.extend entries).get? key = some value) :
    (key, value) ∈ entries ∨ d.get? key = some value := by
  induction entries generalizing d with
  | nil => exact .inr found
  | cons entry rest ih =>
    rcases ih found with later | before
    · exact .inl (List.mem_cons_of_mem _ later)
    · rw [get?_insert] at before
      split at before
      next same =>
        cases before
        subst same
        exact .inl (List.mem_cons_self ..)
      · exact .inr before

theorem isSome_get?_extend {d : Dict α} (written : (d.get? key).isSome = true ∨ key ∈ entries.map Prod.fst) :
    ((d.extend entries).get? key).isSome = true := by
  induction entries generalizing d with
  | nil => exact written.resolve_right (List.not_mem_nil)
  | cons entry rest ih =>
    refine ih ?_
    rw [get?_insert]
    by_cases same : entry.1 = key
    · rw [if_pos same]
      exact .inl rfl
    · rw [if_neg same]
      refine written.imp_right fun member => ?_
      rcases List.mem_cons.mp member with first | later
      · exact absurd first.symm same
      · exact later

theorem isEmpty_iff {d : Dict α} : d.isEmpty = true ↔ d = ∅ := by
  obtain ⟨entries, ascending⟩ := d
  cases entries with
  | nil => exact iff_of_true rfl rfl
  | cons => exact iff_of_false (by simp [isEmpty]) (fun same => nomatch congrArg Dict.entries same)

theorem isEmpty_ofList_iff : (ofList entries).isEmpty = true ↔ entries = [] := by
  constructor
  · intro nothing
    cases entries with
    | nil => rfl
    | cons entry rest =>
      have found : ((ofList (entry :: rest)).get? entry.1).isSome = true :=
        isSome_get?_extend (.inr (List.mem_cons_self ..))
      rw [isEmpty_iff.mp nothing] at found
      cases found
  · rintro rfl
    rfl

end Extend

theorem eq_of_get?_eq {d other : Dict α} (same : ∀ key, d.get? key = other.get? key) : d = other := by
  obtain ⟨entries, ascending⟩ := d
  obtain ⟨entries', ascending'⟩ := other
  obtain rfl := Fields.eq_of_get?_eq ascending ascending' same
  rfl

theorem ofList_entries (d : Dict α) : ofList d.entries = d := by
  refine eq_of_get?_eq fun key => ?_
  rw [ofList, get?_extend d.ascending, get?_empty, Option.or_none, get?]

section Last

variable {entries : List (String × α)} {key : String} {value : α}

theorem get?_extend_of_last (last : Fields.Last entries key value) (d : Dict α) :
    (d.extend entries).get? key = some value := by
  obtain ⟨before, after, rfl, absent⟩ := last
  have written : d.extend (before ++ (key, value) :: after) = ((d.extend before).insert key value).extend after := by
    rw [extend, extend, extend, List.foldl_append, List.foldl_cons]
  rw [written, get?_extend_of_notMem absent, get?_insert, if_pos rfl]

/-- The last entry of a key stands; a key without an entry keeps what it had. -/
theorem get?_extend_eq_some_iff {d : Dict α} : (d.extend entries).get? key = some value ↔
    Fields.Last entries key value ∨ key ∉ entries.map Prod.fst ∧ d.get? key = some value := by
  by_cases written : key ∈ entries.map Prod.fst
  · obtain ⟨other, last⟩ := Fields.exists_last_iff.mpr written
    constructor
    · intro found
      obtain rfl := Option.some.inj ((get?_extend_of_last last d).symm.trans found)
      exact .inl last
    · exact fun stands => get?_extend_of_last (stands.resolve_right fun kept => kept.1 written) d
  · rw [get?_extend_of_notMem written]
    have unwritten : ¬ Fields.Last entries key value := fun last => written (Fields.exists_last_iff.mp ⟨value, last⟩)
    simp [written, unwritten]

theorem get?_ofList_eq_some_iff : (ofList entries).get? key = some value ↔ Fields.Last entries key value := by
  rw [ofList, get?_extend_eq_some_iff]
  exact or_iff_left fun kept => nomatch kept.2

theorem mem_keys_ofList : key ∈ (ofList entries).keys ↔ key ∈ entries.map Prod.fst := by
  rw [mem_keys_iff, Option.isSome_iff_exists, ← Fields.exists_last_iff]
  simp only [get?_ofList_eq_some_iff]

end Last

end Dict

end Orchestra
