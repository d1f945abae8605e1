import Orchestra.Proofs.PanelResolution

namespace Orchestra

/-- An array lies on the path: a part of it, up to one of its dots, leads there. -/
def Path.Crosses (path : String) (state : State) : Prop :=
  ∃ front back items, path = front ++ "." ++ back ∧ lookup front ∅ state = some (.array items)

/-- What a panel adds to whatever panels are declared before it: a value under its id, or none, and warnings. -/
structure Panel.Adds (panel : Panel) (state : State) (added : Option Json) (told : List Warning) : Prop where
  data : ∀ declared, ((Outputs.panels (declared ++ [panel])).resolve state).data =
    added.elim ((Outputs.panels declared).resolve state).data
      (((Outputs.panels declared).resolve state).data.insert panel.id ·)
  warnings : ∀ declared, ((Outputs.panels (declared ++ [panel])).resolve state).warnings =
    ((Outputs.panels declared).resolve state).warnings ++ told

/-- What a panel adds by its path is what a template finds at the path, with nothing but the state to look at. -/
structure Path.Agrees (path : String) (state : State) (added : Option Json) (told : List Warning) : Prop where
  /-- Whatever is added is looked up, and whatever is looked up without an array on the path is added. -/
  value : ∀ value, added = some value ↔ lookup path ∅ state = some value ∧ ¬ Crosses path state
  quiet : (lookup path ∅ state).isSome = true → ¬ Crosses path state →
    ∀ warning ∈ told, warning.kind ≠ "invalid_data_path"
  crossing : (lookup path ∅ state).isSome = true → Crosses path state → ∀ root rest, Splits path root rest →
    ((∃ warning ∈ told, warning.kind = "invalid_data_path") ↔ ∃ items, state.get? root = some (.array items))

/-- Where no array is met, both ways down are the same. -/
theorem reaches_iff_descend {start value : Json} {segments : List String} :
    Reaches start segments value ↔ Path.descend? start segments = some value ∧
      ∀ before segment after items, segments = before ++ segment :: after →
        Path.descend? start before ≠ some (.array items) := by
  induction segments generalizing start with
  | nil =>
    constructor
    · rintro ⟨⟩
      exact ⟨rfl, fun before segment after items none => by cases before <;> cases none⟩
    · rintro ⟨⟨⟩, _⟩
      exact .here _
  | cons segment rest ih =>
    constructor
    · intro reaches
      cases reaches with
      | @field fields _ _ next _ there deeper =>
        obtain ⟨found, free⟩ := ih.mp deeper
        have down : Path.step? (.object fields) segment = some next := there
        refine ⟨by rw [Path.descend?, down, Option.bind_some, found], ?_⟩
        intro before segment' after items cut
        cases before with
        | nil =>
          intro same
          cases same
        | cons first before =>
          obtain ⟨rfl, later⟩ := List.cons.inj cut
          rw [Path.descend?, down, Option.bind_some]
          exact free before segment' after items later
    · rintro ⟨found, free⟩
      obtain ⟨next, down, below⟩ := Option.bind_eq_some_iff.mp found
      cases start with
      | object fields =>
        have there : Path.step? (.object fields) segment = some next := down
        refine .field there (ih.mpr ⟨below, fun before segment' after items cut => ?_⟩)
        have further := free (segment :: before) segment' after items (by rw [cut, List.cons_append])
        rwa [Path.descend?, there, Option.bind_some] at further
      | array items => exact absurd rfl (free [] segment rest items rfl)
      | _ => cases down

namespace Path

/-- Only from objects and arrays is there a way on. -/
theorem exists_array_of_descend {start value : Json} {segments : List String}
    (below : descend? start segments = some value) (further : segments ≠ []) (flatRoot : start.object? = none) :
    ∃ items, start = .array items := by
  cases segments with
  | nil => exact absurd rfl further
  | cons segment rest =>
    cases start with
    | array items => exact ⟨items, rfl⟩
    | object => cases flatRoot
    | _ => cases below

variable {path root : String} {rest : List String} {state : State} {start value : Json}

theorem Splits.lookup_state (splits : Splits path root rest) (found : state.get? root = some start) :
    Path.lookup path ∅ state = descend? start rest := by
  rw [splits.lookup, found]
  rfl

theorem Splits.exists_root (splits : Splits path root rest) (looked : Path.lookup path ∅ state = some value) :
    ∃ start, state.get? root = some start := by
  rw [splits.lookup, Option.bind_eq_some_iff] at looked
  obtain ⟨start, found, _⟩ := looked
  exact ⟨start, found⟩

theorem Splits.crosses_iff (splits : Splits path root rest) (found : state.get? root = some start) :
    Crosses path state ↔ ∃ before segment after items, rest = before ++ segment :: after ∧
      descend? start before = some (.array items) := by
  constructor
  · rintro ⟨front, back, items, rfl, array⟩
    obtain ⟨root', before, front⟩ := exists_splits front
    obtain ⟨segment, after, back⟩ := exists_splits back
    obtain ⟨rfl, rfl⟩ := splits.unique (front.join back)
    rw [front.lookup_state found] at array
    exact ⟨before, segment, after, items, rfl, array⟩
  · rintro ⟨before, segment, after, items, rfl, array⟩
    obtain ⟨front, back, whole, front', _⟩ := splits.cut
    exact ⟨front, back, items, whole, (front'.lookup_state found).trans array⟩

/-- Through objects only, a path leads to what is looked up without an array on the path. -/
theorem Splits.reaches_iff (splits : Splits path root rest) (found : state.get? root = some start) :
    Reaches start rest value ↔ Path.lookup path ∅ state = some value ∧ ¬ Crosses path state := by
  rw [reaches_iff_descend, splits.lookup_state found, splits.crosses_iff found]
  simp only [not_exists, not_and, ne_eq]

end Path

namespace Panel

variable {panel : Panel} {path root : String} {rest : List String} {state : State} {start value : Json}
  {warnings : List Warning}

theorem adds (panel : Panel) (state : State) : panel.Adds state (panel.value? state) (panel.warnings state) where
  data declared := by
    simp only [Outputs.resolve, Outputs.resolvePanels, Dict.ofList, Dict.extend, List.filterMap_append,
      List.foldl_append]
    cases found : panel.value? state <;> simp [found]
  warnings declared := by
    simp only [Outputs.resolve, Outputs.resolvePanels, List.flatMap_append, List.flatMap_singleton]

theorem valueAt?_iff_lookup :
    valueAt? path state = some value ↔ Path.lookup path ∅ state = some value ∧ ¬ Path.Crosses path state := by
  obtain ⟨root, rest, splits⟩ := Path.exists_splits path
  rw [valueAt?_eq_some_iff splits]
  constructor
  · rintro ⟨start, found, reaches⟩
    exact (splits.reaches_iff found).mp reaches
  · intro looked
    obtain ⟨start, found⟩ := splits.exists_root looked.1
    exact ⟨start, found, (splits.reaches_iff found).mpr looked⟩

/-- Nothing that is told of matches is told as a fault of a path. -/
theorem MatchesTold.kind_ne (told : panel.MatchesTold state warnings) :
    ∀ warning ∈ warnings, warning.kind ≠ "invalid_data_path" := by
  intro warning member
  cases told with
  | orphaned _ _ shows => rw [List.mem_singleton.mp member, shows.kind]; decide
  | single => cases member
  | ambiguous _ _ shows => rw [List.mem_singleton.mp member, shows.kind]; decide

/-- Of a path whose root is there a fault is told if it goes on below something that is no object. -/
theorem fault_iff (atPath : panel.dataPath = some path) (splits : Path.Splits path root rest)
    (found : state.get? root = some start) :
    (∃ warning ∈ panel.warnings state, warning.kind = "invalid_data_path") ↔ rest ≠ [] ∧ start.object? = none := by
  have innocent := (panel.matchesTold state).kind_ne
  rw [warnings, atPath, Option.elim_some, pathWarnings, splitPath_eq splits]
  simp only [found, List.mem_append]
  split
  next goes =>
    rw [List.isEmpty_iff, Option.isSome_iff_ne_none] at goes
    constructor
    · rintro ⟨warning, ofMatches | ofPath, fault⟩
      · exact absurd fault (innocent warning ofMatches)
      · cases ofPath
    · rintro ⟨further, flatRoot⟩
      exact absurd flatRoot (goes.resolve_left further)
  next stops =>
    rw [not_or, List.isEmpty_iff, Option.not_isSome_iff_eq_none] at stops
    exact iff_of_true ⟨_, .inr (List.mem_singleton_self _), rfl⟩ stops

end Panel

/-- A path of any form, and a panel of any name: the panel adds what the lookup of a template gives, as far as no
array is met. -/
theorem Panel.dataPath_agrees (id path : String) (state : State) : ∃ added told,
    Panel.Adds ⟨id, some path⟩ state added told ∧ Path.Agrees path state added told := by
  obtain ⟨root, rest, splits⟩ := Path.exists_splits path
  refine ⟨_, _, Panel.adds ⟨id, some path⟩ state, fun value => Panel.valueAt?_iff_lookup, ?_, ?_⟩
  · intro looked free warning member fault
    obtain ⟨value, looked⟩ := Option.isSome_iff_exists.mp looked
    obtain ⟨start, found⟩ := splits.exists_root looked
    obtain ⟨further, flatRoot⟩ := (Panel.fault_iff rfl splits found).mp ⟨warning, member, fault⟩
    cases (splits.reaches_iff found).mpr ⟨looked, free⟩ with
    | here => exact further rfl
    | field => cases flatRoot
  · intro looked crosses root' rest' splits'
    obtain ⟨rfl, rfl⟩ := splits.unique splits'
    obtain ⟨value, looked⟩ := Option.isSome_iff_exists.mp looked
    obtain ⟨start, found⟩ := splits.exists_root looked
    obtain ⟨before, segment, after, items, rfl, _⟩ := (splits.crosses_iff found).mp crosses
    have further : before ++ segment :: after ≠ [] := List.append_ne_nil_of_right_ne_nil _ nofun
    rw [Panel.fault_iff rfl splits found, found]
    constructor
    · rintro ⟨_, flatRoot⟩
      rw [splits.lookup_state found] at looked
      obtain ⟨items, rfl⟩ := Path.exists_array_of_descend looked further flatRoot
      exact ⟨items, rfl⟩
    · rintro ⟨items, same⟩
      obtain rfl := Option.some.inj same
      exact ⟨further, rfl⟩

/-- The array lies below an object, so that the lookup goes on and the panel adds nothing without a warning. -/
example : let state : State := Dict.ofList [("perf", .object [("rows", .array [.bool true])])]
    Path.lookup "perf.rows.0" ∅ state = some (.bool true) ∧
      ((Outputs.panels [⟨"perf", some "perf.rows.0"⟩]).resolve state).data.keys = [] ∧
      ((Outputs.panels [⟨"perf", some "perf.rows.0"⟩]).resolve state).warnings = [] :=
  ⟨rfl, by decide, by decide⟩

end Orchestra
