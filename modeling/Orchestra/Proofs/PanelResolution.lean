import Mathlib.Data.List.Forall2
import Mathlib.Data.List.Induction
import Orchestra.Proofs.DeclaredKeys

namespace Orchestra

/-- A key is an id, or ends or begins with it, set off by an underscore. -/
def Resembles (id key : String) : Prop :=
  key = id ∨ (∃ front, key = front ++ "_" ++ id) ∨ ∃ back, key = id ++ "_" ++ back

/-- A value is reached from another one by the names of fields, through objects only. -/
inductive Reaches : Json → List String → Json → Prop
  | here (value : Json) : Reaches value [] value
  | field {fields : List (String × Json)} {segment : String} {rest : List String} {next value : Json} :
      Fields.get? fields segment = some next → Reaches next rest value →
      Reaches (.object fields) (segment :: rest) value

theorem reaches_iff {start value : Json} {segments : List String} :
    Reaches start segments value ↔ descendFields? start segments = some value := by
  induction segments generalizing start with
  | nil =>
    rw [descendFields?, Option.some.injEq]
    constructor
    · rintro ⟨⟩
      rfl
    · rintro rfl
      exact .here _
  | cons segment rest ih =>
    rw [descendFields?, Option.bind_eq_some_iff]
    constructor
    · intro reaches
      cases reaches with
      | field there deeper => exact ⟨_, there, ih.mp deeper⟩
    · rintro ⟨next, there, deeper⟩
      cases start with
      | object fields => exact .field there (ih.mpr deeper)
      | _ => cases there

section Resemblance

variable {id key : String}

theorem trailing_iff : ('_' :: id.toList).isSuffixOf key.toList = true ↔ ∃ front, key = front ++ "_" ++ id := by
  rw [List.isSuffixOf_iff_suffix]
  constructor
  · rintro ⟨front, same⟩
    refine ⟨String.ofList front, String.toList_inj.mp ?_⟩
    rw [← same]
    simp
  · rintro ⟨front, rfl⟩
    exact ⟨front.toList, by simp⟩

theorem leading_iff : (id.toList ++ ['_']).isPrefixOf key.toList = true ↔ ∃ back, key = id ++ "_" ++ back := by
  rw [List.isPrefixOf_iff_prefix]
  constructor
  · rintro ⟨back, same⟩
    refine ⟨String.ofList back, String.toList_inj.mp ?_⟩
    rw [← same]
    simp
  · rintro ⟨back, rfl⟩
    exact ⟨back.toList, by simp⟩

/-- The likeness of a key, of whichever kind, says that it resembles the id. -/
theorem Likeness.isSome_of?_iff : (Likeness.of? id key).isSome = true ↔ Resembles id key := by
  rw [Resembles, ← trailing_iff, ← leading_iff]
  unfold Likeness.of?
  split
  next same => simp [same]
  next different =>
    split
    next trailing => simp [trailing]
    next notTrailing =>
      split
      next leading => simp [leading]
      next notLeading => simp [different, notTrailing, notLeading]

end Resemblance

namespace Panel

/-- A key of the state resembles the id of the panel. -/
def Matches (panel : Panel) (state : State) (key : String) : Prop :=
  (state.get? key).isSome = true ∧ Resembles panel.id key

/-- What is told of the matches of a panel. -/
inductive MatchesTold (panel : Panel) (state : State) : List Warning → Prop
  | orphaned {warning : Warning} {available : List String} : (∀ key, ¬ panel.Matches state key) →
      Enumerates available (fun key => (state.get? key).isSome = true) →
      warning.Shows "orphaned_panel" panel.id available → MatchesTold panel state [warning]
  | single {key : String} : (∀ other, panel.Matches state other ↔ other = key) → MatchesTold panel state []
  | ambiguous {warning : Warning} {several : List String} : Enumerates several (panel.Matches state) →
      2 ≤ several.length → warning.Shows "ambiguous_panel" panel.id several → MatchesTold panel state [warning]

/-- What is told of the path of a panel. -/
inductive PathTold (panel : Panel) (state : State) : List Warning → Prop
  | pathless : panel.dataPath = none → PathTold panel state []
  | rootless {path root : String} {rest available : List String} {warning : Warning} : panel.dataPath = some path →
      Path.Splits path root rest → state.get? root = none →
      Enumerates available (fun key => (state.get? key).isSome = true) →
      warning.Shows "invalid_data_path" panel.id available → PathTold panel state [warning]
  | flat {path root : String} {rest : List String} {start : Json} {warning : Warning} : panel.dataPath = some path →
      Path.Splits path root rest → rest ≠ [] → state.get? root = some start → start.object? = none →
      warning.Shows "invalid_data_path" panel.id [root] → PathTold panel state [warning]
  | sound {path root : String} {rest : List String} {start : Json} : panel.dataPath = some path →
      Path.Splits path root rest → state.get? root = some start → rest = [] ∨ start.object? ≠ none →
      PathTold panel state []

/-- A value that a panel contributes: that of its only match, or that at its path if it has one. -/
inductive Contributes (panel : Panel) (state : State) : Json → Prop
  | likeness {key : String} {value : Json} : panel.dataPath = none →
      (∀ other, panel.Matches state other ↔ other = key) → state.get? key = some value →
      Contributes panel state value
  | path {path root : String} {rest : List String} {start value : Json} : panel.dataPath = some path →
      Path.Splits path root rest → state.get? root = some start → Reaches start rest value →
      Contributes panel state value

/-- A panel of a declaration with this id contributes the value, and no later one with the id contributes any. -/
def LastContributes (declared : List Panel) (state : State) (id : String) (value : Json) : Prop :=
  ∃ before panel after, declared = before ++ panel :: after ∧ panel.id = id ∧ panel.Contributes state value ∧
    ∀ later ∈ after, later.id = id → ∀ other, ¬ later.Contributes state other

/-- The panel has one match, which it does not take, and a path that begins at an object and leads to nothing. -/
structure Dropped (panel : Panel) (state : State) : Prop where
  single : ∃ key, ∀ other, panel.Matches state other ↔ other = key
  astray : ∃ path root rest fields, panel.dataPath = some path ∧ Path.Splits path root rest ∧
    state.get? root = some (.object fields) ∧ ∀ value, ¬ Reaches (.object fields) rest value

/-- Every panel of a declaration is accounted for: by its contribution, by warnings, or as one that is dropped. -/
structure Accounted (declared : List Panel) (state : State) : Prop where
  warnings : ∃ told : List (List Warning × List Warning),
    List.Forall₂ (fun panel told => panel.MatchesTold state told.1 ∧ panel.PathTold state told.2) declared told ∧
      ((Outputs.panels declared).resolve state).warnings = told.flatMap fun told => told.1 ++ told.2
  data : ∀ id value, ((Outputs.panels declared).resolve state).data.get? id = some value ↔
    LastContributes declared state id value
  silent : ∀ panel : Panel, ((Outputs.panels [panel]).resolve state).data = ∅ ∧
    ((Outputs.panels [panel]).resolve state).warnings = [] ↔ panel.Dropped state

variable {panel : Panel} {declared : List Panel} {state : State} {id : String} {value : Json}

theorem candidates_eq_filter (panel : Panel) (state : State) :
    panel.candidates state = state.keys.filter fun key => (Likeness.of? panel.id key).isSome := by
  rw [candidates, panelMatches]
  induction state.keys with
  | nil => rfl
  | cons key rest ih => cases like : Likeness.of? panel.id key <;> simp [like, ih]

theorem enumerates_candidates (panel : Panel) (state : State) :
    Enumerates (panel.candidates state) (panel.Matches state) where
  ascending := by
    rw [candidates_eq_filter]
    exact state.keys_ascending.filter _
  mem_iff key := by rw [candidates_eq_filter, List.mem_filter, Dict.mem_keys_iff, Likeness.isSome_of?_iff, Matches]

theorem candidates_eq_singleton_iff {key : String} :
    panel.candidates state = [key] ↔ ∀ other, panel.Matches state other ↔ other = key := by
  have enumerates := panel.enumerates_candidates state
  constructor
  · intro single other
    rw [← enumerates.mem_iff, single, List.mem_singleton]
  · intro single
    have alone : Enumerates [key] (panel.Matches state) :=
      ⟨List.pairwise_singleton _ _, fun other => by rw [single, List.mem_singleton]⟩
    exact enumerates.unique alone

theorem matchesTold (panel : Panel) (state : State) : panel.MatchesTold state (panel.matchWarnings state) := by
  have enumerates := panel.enumerates_candidates state
  unfold matchWarnings
  split
  next none =>
    refine .orphaned (fun key isMatch => ?_) (.keys_dict state) ⟨rfl, rfl, rfl⟩
    rw [← enumerates.mem_iff, none] at isMatch
    cases isMatch
  next key single => exact .single (candidates_eq_singleton_iff.mp single)
  next several notNone notSingle =>
    refine .ambiguous enumerates ?_ ⟨rfl, rfl, rfl⟩
    match found : panel.candidates state with
    | [] => exact absurd found notNone
    | [key] => exact absurd found (notSingle key)
    | _ :: _ :: _ => exact Nat.le_add_left 2 _

theorem splitPath_eq {path root : String} {rest : List String} (splits : Path.Splits path root rest) :
    splitPath path = (root, rest) := by
  rw [splitPath, Path.segments_eq_iff.mpr splits]

theorem pathTold {path : String} (panel : Panel) (state : State) (atPath : panel.dataPath = some path) :
    panel.PathTold state (panel.pathWarnings path state) := by
  obtain ⟨root, rest, splits⟩ := Path.exists_splits path
  rw [pathWarnings, splitPath_eq splits]
  dsimp only
  cases found : state.get? root with
  | none => exact .rootless atPath splits found (.keys_dict state) ⟨rfl, rfl, rfl⟩
  | some start =>
    dsimp only
    split
    next goes =>
      refine .sound atPath splits found (goes.imp List.isEmpty_iff.mp fun object => ?_)
      exact Option.isSome_iff_ne_none.mp object
    next stops =>
      rw [not_or, List.isEmpty_iff, Option.not_isSome_iff_eq_none] at stops
      exact .flat atPath splits stops.1 found stops.2 ⟨rfl, rfl, rfl⟩

theorem warnings_eq (panel : Panel) (state : State) :
    ∃ told, panel.PathTold state told ∧ panel.warnings state = panel.matchWarnings state ++ told := by
  rw [warnings]
  cases atPath : panel.dataPath with
  | none => exact ⟨[], .pathless atPath, rfl⟩
  | some path => exact ⟨_, panel.pathTold state atPath, rfl⟩

theorem valueAt?_eq_some_iff {path root : String} {rest : List String} (splits : Path.Splits path root rest) :
    valueAt? path state = some value ↔ ∃ start, state.get? root = some start ∧ Reaches start rest value := by
  rw [valueAt?, splitPath_eq splits, Option.bind_eq_some_iff]
  simp only [reaches_iff]

theorem value?_eq_some_iff : panel.value? state = some value ↔ panel.Contributes state value := by
  unfold value?
  split
  next path atPath =>
    obtain ⟨root, rest, splits⟩ := Path.exists_splits path
    rw [valueAt?_eq_some_iff splits]
    constructor
    · rintro ⟨start, found, reaches⟩
      exact .path atPath splits found reaches
    · intro contributes
      cases contributes with
      | likeness pathless => rw [pathless] at atPath; cases atPath
      | path here splits' found reaches =>
        obtain rfl := Option.some.inj (atPath.symm.trans here)
        obtain ⟨rfl, rfl⟩ := splits.unique splits'
        exact ⟨_, found, reaches⟩
  next pathless =>
    constructor
    · intro found
      split at found
      next key single => exact .likeness pathless (candidates_eq_singleton_iff.mp single) found
      next => cases found
    · intro contributes
      cases contributes with
      | likeness _ single found => rw [candidates_eq_singleton_iff.mpr single]; exact found
      | path atPath => rw [pathless] at atPath; cases atPath

theorem value?_eq_none_iff : panel.value? state = none ↔ ∀ value, ¬ panel.Contributes state value := by
  simp only [← value?_eq_some_iff, Option.eq_none_iff_forall_ne_some, ne_eq]

/-- One more panel writes its value, if it has one, and leaves all else. -/
theorem data_concat (declared : List Panel) (panel : Panel) (state : State) (id : String) :
    (Outputs.resolvePanels (declared ++ [panel]) state).data.get? id =
      if panel.id = id then (panel.value? state).or ((Outputs.resolvePanels declared state).data.get? id)
      else (Outputs.resolvePanels declared state).data.get? id := by
  simp only [Outputs.resolvePanels, List.filterMap_append, Dict.ofList, Dict.extend, List.foldl_append]
  cases found : panel.value? state with
  | none => simp [found]
  | some value =>
    simp only [List.filterMap_cons, found, Option.map_some, List.filterMap_nil, List.foldl_cons, List.foldl_nil,
      Dict.get?_insert, Option.some_or]

theorem lastContributes_concat_iff : LastContributes (declared ++ [panel]) state id value ↔
    (panel.id = id ∧ panel.Contributes state value) ∨
      ((panel.id = id → ∀ other, ¬ panel.Contributes state other) ∧ LastContributes declared state id value) := by
  constructor
  · rintro ⟨before, last, after, same, own, contributes, none⟩
    rcases List.eq_nil_or_concat after with rfl | ⟨between, final, rfl⟩
    · obtain ⟨rfl, single⟩ := List.append_inj' same rfl
      obtain rfl := List.singleton_inj.mp single
      exact .inl ⟨own, contributes⟩
    · rw [List.concat_eq_append] at same none
      have moved : declared ++ [panel] = (before ++ last :: between) ++ [final] := by
        rw [same, List.append_assoc, List.cons_append]
      obtain ⟨rfl, single⟩ := List.append_inj' moved rfl
      obtain rfl := List.singleton_inj.mp single
      refine .inr ⟨none panel (by simp), before, last, between, rfl, own, contributes, fun later member => ?_⟩
      exact none later (List.mem_append_left _ member)
  · rintro (⟨own, contributes⟩ | ⟨free, before, last, after, rfl, own, contributes, none⟩)
    · exact ⟨declared, panel, [], rfl, own, contributes, nofun⟩
    · refine ⟨before, last, after ++ [panel], by simp, own, contributes, ?_⟩
      intro later member
      rcases List.mem_append.mp member with old | new
      · exact none later old
      · rw [List.mem_singleton.mp new]
        exact free

/-- The value under an id is the last contribution to it. -/
theorem data_eq_some_iff :
    (Outputs.resolvePanels declared state).data.get? id = some value ↔ LastContributes declared state id value := by
  induction declared using List.reverseRecOn with
  | nil =>
    refine iff_of_false nofun ?_
    rintro ⟨before, panel, after, same, _⟩
    cases before <;> cases same
  | append_singleton declared panel ih =>
    rw [data_concat, lastContributes_concat_iff, ← ih, ← value?_eq_none_iff, ← value?_eq_some_iff]
    by_cases own : panel.id = id
    · cases found : panel.value? state <;> simp [own]
    · simp [own]

theorem resolve_single_iff (panel : Panel) (state : State) :
    (((Outputs.panels [panel]).resolve state).data = ∅ ∧ ((Outputs.panels [panel]).resolve state).warnings = []) ↔
      panel.value? state = none ∧ panel.warnings state = [] := by
  have data : ((Outputs.panels [panel]).resolve state).data = ∅ ↔ panel.value? state = none := by
    rw [← Dict.isEmpty_iff, Outputs.resolve_data, Dict.isEmpty_ofList_iff, Outputs.found]
    cases found : panel.value? state <;> simp [found]
  have told : ((Outputs.panels [panel]).resolve state).warnings = panel.warnings state := List.append_nil _
  rw [data, told]

/-- Nothing is told and nothing is contributed only where a path leads from an object to nothing. -/
theorem silent_iff : panel.value? state = none ∧ panel.warnings state = [] ↔ panel.Dropped state := by
  constructor
  · rintro ⟨none, quiet⟩
    rw [value?_eq_none_iff] at none
    obtain ⟨told, pathTold, same⟩ := panel.warnings_eq state
    rw [quiet] at same
    obtain ⟨noMatches, rfl⟩ := List.append_eq_nil_iff.mp same.symm
    have matchesTold := panel.matchesTold state
    rw [noMatches] at matchesTold
    cases matchesTold with
    | @single key single =>
      refine ⟨⟨key, single⟩, ?_⟩
      cases pathTold with
      | pathless pathless =>
        obtain ⟨value, found⟩ := Option.isSome_iff_exists.mp ((single key).mpr rfl).1
        exact absurd (.likeness pathless single found) (none value)
      | @sound path root rest start atPath splits found goes =>
        have missed (value : Json) : ¬ Reaches start rest value :=
          fun reaches => none value (.path atPath splits found reaches)
        rcases goes with rfl | object
        · exact absurd (.here start) (missed start)
        · cases start with
          | object fields => exact ⟨path, root, rest, fields, atPath, splits, found, missed⟩
          | _ => exact absurd rfl object
  · rintro ⟨⟨key, single⟩, path, root, rest, fields, atPath, splits, found, missed⟩
    have alone := candidates_eq_singleton_iff.mpr single
    refine ⟨?_, ?_⟩
    · rw [value?, atPath]
      refine Option.eq_none_iff_forall_ne_some.mpr fun value reached => ?_
      obtain ⟨start, found', reaches⟩ := (valueAt?_eq_some_iff splits).mp reached
      obtain rfl := Option.some.inj (found.symm.trans found')
      exact missed value reaches
    · rw [warnings, atPath, matchWarnings, alone, Option.elim_some, pathWarnings, splitPath_eq splits]
      simp [found, Json.object?]

/-- What each panel contributes and what is told of it is settled by the state keys that resemble its id and by its
path; the last contribution under an id stands. -/
theorem panels_accounted (declared : List Panel) (state : State) : Accounted declared state where
  warnings := by
    induction declared with
    | nil => exact ⟨[], .nil, rfl⟩
    | cons panel rest ih =>
      obtain ⟨later, told, same⟩ := ih
      obtain ⟨path, pathTold, own⟩ := panel.warnings_eq state
      refine ⟨(panel.matchWarnings state, path) :: later, .cons ⟨panel.matchesTold state, pathTold⟩ told, ?_⟩
      rw [List.flatMap_cons, ← own, ← same]
      rfl
  data _ _ := data_eq_some_iff
  silent panel := by rw [resolve_single_iff, silent_iff]

/-- A key that ends and begins with the id is one match. -/
example : ((Outputs.panels [{ id := "x" }]).resolve (Dict.ofList [("x_x", .null), ("xx", .null)])).warnings = [] := by
  decide

end Panel

end Orchestra
