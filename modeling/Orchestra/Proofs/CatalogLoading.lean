import Orchestra.Proofs.PatternFiles

namespace Orchestra

variable {σ : Type}

section Host

variable (host : Host (StateM σ)) (world : σ) (path : String)

/-- What lies at a path in a world. -/
def Host.sees : Option FileNode := ((host.look path).run world).1

/-- Looking changes nothing. -/
def Host.Still : Prop := ∀ path world, ((host.look path).run world).2 = world

/-- At a path lies a directory, which lists each name once. -/
def Host.IsDirectory : Prop := ∃ names, host.sees world path = some (.directory names) ∧ names.Nodup

/-- The directory at a path has a file of this name, which holds the pattern. -/
def Host.Holds (name : String) (pattern : Pattern) : Prop :=
  ∃ names, host.sees world path = some (.directory names) ∧ name ∈ names ∧
    HoldsPattern name (host.sees world (FileName.join path name)) pattern

/-- Of the files with patterns of this id, the one whose name comes last holds this pattern. -/
def Host.HoldsLast (id : String) (pattern : Pattern) : Prop :=
  ∃ name, host.Holds world path name pattern ∧ pattern.id = id ∧
    ∀ other pattern', host.Holds world path other pattern' → pattern'.id = id → other ≤ name

/-- The names in a directory, each with what lies there. -/
def Host.contents (names : List String) : Listing :=
  names.map fun name => (name, host.sees world (FileName.join path name))

end Host

/-- A catalog after a directory was loaded over another one, and the answered count. -/
structure Catalog.LoadedFrom (host : Host (StateM σ)) (world : σ) (path : String) (before after : Catalog)
    (count : Nat) : Prop where
  found : ∀ id pattern, after.get? id = some pattern ↔ host.HoldsLast world path id pattern ∨
    (∀ name other, host.Holds world path name other → other.id ≠ id) ∧ before.get? id = some pattern
  /-- All files with a pattern count, also where several have patterns of one id. -/
  count : ∃ names, Enumerates names (fun name => ∃ pattern, host.Holds world path name pattern) ∧ count = names.length

/-- What is done to a catalog; a directory is loaded from the world as it is then. -/
inductive CatalogStep (σ : Type) where
  | insert (pattern : Pattern)
  | load (path : String) (world : σ)

namespace CatalogStep

/-- The catalog after a step. Where there is no directory, it stays as it is. -/
def apply (host : Host (StateM σ)) (catalog : Catalog) : CatalogStep σ → Catalog
  | insert pattern => catalog.insert pattern
  | load path world => (((catalog.loadFrom? host path).run world).1.map Prod.fst).getD catalog

/-- A step brings a pattern of an id. -/
inductive Brings (host : Host (StateM σ)) : CatalogStep σ → String → Pattern → Prop
  | insert (pattern : Pattern) : Brings host (.insert pattern) pattern.id pattern
  | load {path : String} {world : σ} {id : String} {pattern : Pattern} : host.HoldsLast world path id pattern →
      Brings host (.load path world) id pattern

/-- Of some steps, the last one that brings a pattern of this id brings this pattern. -/
def LastBrings (host : Host (StateM σ)) (steps : List (CatalogStep σ)) (id : String) (pattern : Pattern) : Prop :=
  ∃ before step after, steps = before ++ step :: after ∧ step.Brings host id pattern ∧
    ∀ later ∈ after, ∀ other, ¬ later.Brings host id other

end CatalogStep

/-- What holds of a catalog that some steps make out of another one. -/
structure Catalog.After (host : Host (StateM σ)) (before : Catalog) (steps : List (CatalogStep σ)) (after : Catalog) :
    Prop where
  keyed : ∀ id pattern, after.get? id = some pattern → pattern.id = id
  ids : Enumerates after.ids fun id => ∃ pattern, after.get? id = some pattern
  latest : ∀ id pattern, after.get? id = some pattern ↔ CatalogStep.LastBrings host steps id pattern ∨
    (∀ step ∈ steps, ∀ other, ¬ step.Brings host id other) ∧ before.get? id = some pattern

/-- How catalogs are loaded from directories. -/
structure Host.LoadsInOrder (host : Host (StateM σ)) : Prop where
  /-- A name in a directory tells a format by its extension. -/
  formats : ∀ name, '/' ∉ name.toList → ∀ format, FileFormat.ofPath? name = some format ↔
    ∃ stem, stem ≠ "" ∧ name = stem ++ "." ++ format.extension
  loaded : ∀ (before : Catalog) world path, host.IsDirectory world path → ∃ after count,
    (before.loadFrom? host path).run world = (some (after, count), world) ∧
      Catalog.LoadedFrom host world path before after count
  /-- Directories whose files of the same names hold the same patterns are loaded alike, whatever else they have and in
  whatever order they list it. -/
  determined : ∀ (before : Catalog) world path world' path', host.IsDirectory world path → host.IsDirectory world' path' →
    (∀ name pattern, host.Holds world path name pattern ↔ host.Holds world' path' name pattern) →
      ((before.loadFrom? host path).run world).1 = ((before.loadFrom? host path').run world').1
  steps : ∀ (before : Catalog) steps, Catalog.After host before steps (steps.foldl (CatalogStep.apply host) before)

namespace Host

variable {host : Host (StateM σ)} {world : σ} {path : String} {names : List String}

theorem mapM_look (still : host.Still) (world : σ) (path : String) (names : List String) :
    (names.mapM fun name => (do return (name, ← host.look (FileName.join path name)) : StateM σ _)).run world =
      (host.contents world path names, world) := by
  induction names with
  | nil => rfl
  | cons name rest ih =>
    have looked : (host.look (FileName.join path name)).run world =
      (host.sees world (FileName.join path name), world) := Prod.ext rfl (still _ world)
    simp only [List.mapM_cons, StateT.run_bind, looked]
    exact congrArg (fun answer : Listing × σ =>
      ((name, host.sees world (FileName.join path name)) :: answer.1, answer.2)) ih

theorem loadFrom?_directory (still : host.Still) (there : host.sees world path = some (.directory names))
    (catalog : Catalog) :
    (catalog.loadFrom? host path).run world = (some (catalog.load (host.contents world path names)), world) := by
  have looked : (host.look path).run world = (some (.directory names), world) := Prod.ext there (still _ world)
  rw [Catalog.loadFrom?, StateT.run_bind, looked]
  exact congrArg (fun answer : Listing × σ => (some (catalog.load answer.1), answer.2))
    (mapM_look still world path names)

variable {name id : String} {pattern : Pattern} {before : Catalog}

theorem holds_iff (there : host.sees world path = some (.directory names)) :
    host.Holds world path name pattern ↔ (name, pattern) ∈ (host.contents world path names).held := by
  rw [Listing.mem_held_iff]
  constructor
  · rintro ⟨names', there', member, holds⟩
    obtain ⟨⟩ := there.symm.trans there'
    exact ⟨_, List.mem_map_of_mem member, holds⟩
  · rintro ⟨node, listed, holds⟩
    obtain ⟨_, member, ⟨⟩⟩ := List.mem_map.mp listed
    exact ⟨names, there, member, holds⟩

theorem holdsLast_iff (there : host.sees world path = some (.directory names)) :
    host.HoldsLast world path id pattern ↔
      Fields.Last ((host.contents world path names).held.map fun file => (file.2.id, file.2)) id pattern := by
  have single (name : String) (pattern other : Pattern) (held : (name, pattern) ∈ (host.contents world path names).held)
      (held' : (name, other) ∈ (host.contents world path names).held) : pattern = other := by
    obtain ⟨_, _, _, holds⟩ := (holds_iff there).mpr held
    obtain ⟨_, _, _, holds'⟩ := (holds_iff there).mpr held'
    exact holds.unique holds'
  rw [Listing.last_iff_topmost (Listing.held_sorted _) single]
  simp only [HoldsLast, Listing.Topmost, holds_iff there]

/-- If there is a file with a pattern of an id, there is a last one. -/
theorem exists_holdsLast_iff : (∃ pattern, host.HoldsLast world path id pattern) ↔
    ∃ name pattern, host.Holds world path name pattern ∧ pattern.id = id := by
  constructor
  · rintro ⟨pattern, name, holds, own, _⟩
    exact ⟨name, pattern, holds, own⟩
  · rintro ⟨name, pattern, holds, own⟩
    have ⟨names, there, _⟩ := holds
    simp only [holdsLast_iff there]
    refine Fields.exists_last_iff.mpr ?_
    rw [List.map_map]
    exact List.mem_map.mpr ⟨_, (holds_iff there).mp holds, own⟩

theorem get?_load (there : host.sees world path = some (.directory names)) (before : Catalog) :
    (before.load (host.contents world path names)).1.get? id = some pattern ↔ host.HoldsLast world path id pattern ∨
      (∀ name other, host.Holds world path name other → other.id ≠ id) ∧ before.get? id = some pattern := by
  rw [Catalog.get?_load, holdsLast_iff there]
  simp [holds_iff there]

theorem loadedFrom (there : host.sees world path = some (.directory names)) (once : names.Nodup) (before : Catalog) :
    Catalog.LoadedFrom host world path before (before.load (host.contents world path names)).1
      (before.load (host.contents world path names)).2 where
  found id pattern := get?_load there before
  count := by
    have once' : ((host.contents world path names).map Prod.fst).Nodup := by
      simpa [contents, Function.comp_def] using once
    refine ⟨(host.contents world path names).held.map Prod.fst, ?_, by rw [Catalog.count_load, List.length_map]⟩
    simp only [holds_iff there]
    exact Listing.enumerates_held once'

end Host

namespace CatalogStep

variable {host : Host (StateM σ)} {step : CatalogStep σ} {rest steps : List (CatalogStep σ)} {id : String}
  {pattern : Pattern} {catalog : Catalog}

theorem brings_load_iff {world : σ} {path : String} :
    Brings host (.load path world) id pattern ↔ host.HoldsLast world path id pattern :=
  ⟨fun (.load last) => last, .load⟩

theorem apply_directory (still : host.Still) {world : σ} {path : String} {names : List String}
    (there : host.sees world path = some (.directory names)) (catalog : Catalog) :
    (load path world).apply host catalog = (catalog.load (host.contents world path names)).1 := by
  rw [apply, Host.loadFrom?_directory still there]
  rfl

/-- Without a directory nothing is loaded. -/
theorem apply_elsewhere {world : σ} {path : String}
    (elsewhere : ∀ names, host.sees world path ≠ some (.directory names)) (catalog : Catalog) :
    (load path world).apply host catalog = catalog := by
  rw [apply, Catalog.loadFrom?, StateT.run_bind]
  rcases looked : (host.look path).run world with ⟨node, after⟩
  have seen : host.sees world path = node := congrArg Prod.fst looked
  cases node with
  | none => rfl
  | some node =>
    cases node with
    | file => rfl
    | directory names => exact absurd seen (elsewhere names)

/-- What one step leaves under an id. -/
theorem get?_apply (still : host.Still) : (step.apply host catalog).get? id = some pattern ↔
    step.Brings host id pattern ∨ (∀ other, ¬ step.Brings host id other) ∧ catalog.get? id = some pattern := by
  cases step with
  | insert inserted =>
    have brings {other : Pattern} : Brings host (.insert inserted) id other ↔ inserted.id = id ∧ inserted = other := by
      constructor
      · rintro ⟨⟩
        exact ⟨rfl, rfl⟩
      · rintro ⟨rfl, rfl⟩
        exact .insert _
    simp only [brings]
    rw [apply, Catalog.get?, Catalog.insert, Dict.get?_insert]
    by_cases own : inserted.id = id <;> simp [own, Catalog.get?]
  | load path world =>
    simp only [brings_load_iff]
    by_cases there : ∃ names, host.sees world path = some (.directory names)
    · obtain ⟨names, there⟩ := there
      have none_iff : (∀ other, ¬ host.HoldsLast world path id other) ↔
          ∀ name other, host.Holds world path name other → other.id ≠ id := by
        rw [← not_exists, Host.exists_holdsLast_iff]
        simp only [not_exists, not_and, ne_eq]
      rw [apply_directory still there, Host.get?_load there, none_iff]
    · have nothing (other : Pattern) : ¬ host.HoldsLast world path id other := by
        rintro ⟨_, ⟨names, found, _⟩, _⟩
        exact there ⟨names, found⟩
      rw [apply_elsewhere (not_exists.mp there)]
      simp [nothing]

theorem lastBrings_cons_iff : LastBrings host (step :: rest) id pattern ↔
    LastBrings host rest id pattern ∨
      (∀ later ∈ rest, ∀ other, ¬ later.Brings host id other) ∧ step.Brings host id pattern := by
  constructor
  · rintro ⟨before, last, after, whole, brings, silent⟩
    rcases List.cons_eq_append_iff.mp whole with ⟨rfl, same⟩ | ⟨earlier, rfl, rfl⟩
    · obtain ⟨rfl, rfl⟩ := List.cons.inj same
      exact .inr ⟨silent, brings⟩
    · exact .inl ⟨earlier, last, after, rfl, brings, silent⟩
  · rintro (⟨before, last, after, rfl, brings, silent⟩ | ⟨silent, brings⟩)
    · exact ⟨step :: before, last, after, rfl, brings, silent⟩
    · exact ⟨[], step, rest, rfl, brings, silent⟩

/-- What some steps leave under an id. -/
theorem get?_foldl_apply (still : host.Still) (steps : List (CatalogStep σ)) (before : Catalog) :
    (steps.foldl (apply host) before).get? id = some pattern ↔ LastBrings host steps id pattern ∨
      (∀ step ∈ steps, ∀ other, ¬ step.Brings host id other) ∧ before.get? id = some pattern := by
  induction steps generalizing before with
  | nil =>
    have none : ¬ LastBrings host [] id pattern := by
      rintro ⟨earlier, step, after, whole, _⟩
      cases earlier <;> cases whole
    simp [none]
  | cons step rest ih =>
    rw [List.foldl_cons, ih, get?_apply still, lastBrings_cons_iff, List.forall_mem_cons]
    grind

end CatalogStep

section LoadedFrom

variable {host : Host (StateM σ)} {world world' : σ} {path path' : String} {before after after' : Catalog}
  {count count' : Nat}

/-- The files that hold patterns decide what comes of a catalog. -/
theorem Catalog.LoadedFrom.unique (loaded : Catalog.LoadedFrom host world path before after count)
    (loaded' : Catalog.LoadedFrom host world' path' before after' count')
    (same : ∀ name pattern, host.Holds world path name pattern ↔ host.Holds world' path' name pattern) :
    after = after' ∧ count = count' := by
  constructor
  · refine Catalog.eq_of_get?_eq fun id => Option.ext fun pattern => ?_
    rw [loaded.found, loaded'.found]
    simp only [Host.HoldsLast, same]
  · obtain ⟨names, enumerates, rfl⟩ := loaded.count
    obtain ⟨names', enumerates', rfl⟩ := loaded'.count
    simp only [same] at enumerates
    rw [enumerates.unique enumerates']

end LoadedFrom

namespace Host

/-- What a directory adds depends on its files and their names, not on the order in which it lists them, and in a
catalog each pattern lies under its own id. -/
theorem loads_in_order (host : Host (StateM σ)) (still : host.Still) : host.LoadsInOrder where
  formats name plain format := FileFormat.ofPath?_eq_some_iff plain
  loaded before world path := by
    rintro ⟨names, there, once⟩
    exact ⟨_, _, loadFrom?_directory still there before, loadedFrom there once before⟩
  determined before world path world' path' := by
    rintro ⟨names, there, once⟩ ⟨names', there', once'⟩ same
    obtain ⟨catalogs, counts⟩ := (loadedFrom there once before).unique (loadedFrom there' once' before) same
    rw [loadFrom?_directory still there, loadFrom?_directory still there']
    exact congrArg some (Prod.ext catalogs counts)
  steps before steps := {
    keyed := fun id pattern found => Catalog.keyed _ found
    ids := {
      ascending := Dict.keys_ascending _
      mem_iff := fun id => Dict.mem_keys_iff.trans Option.isSome_iff_exists }
    latest := fun id pattern => CatalogStep.get?_foldl_apply still steps before }

/-- A tree holds the pattern that the text of a file in it describes. -/
theorem holdsPattern_of_place? {tree : FileTree} {path name text : String} {place : Place} {pattern : Pattern}
    (short : ¬ FileTree.pathBound ≤ 0 + path.utf8ByteSize) (leads : tree.place? path = some place)
    (there : tree.content? place = some text.toUTF8) (told : FileFormat.ofPath? name = some .json)
    (described : Pattern.ofText? text = some pattern) : HoldsPattern name (FileTree.host.sees tree path) pattern := by
  have seen : FileTree.host.sees tree path = some (.file text.toUTF8) := by
    refine (if_neg short).trans ?_
    rw [FileTree.look, leads, Option.bind_some, there]
  have valid : text.toUTF8.IsValidUTF8 := text.isValidUTF8
  have readable : String.fromUTF8? text.toUTF8 = some text := dif_pos valid
  rw [seen]
  exact .file told readable described

def earlyPattern : Pattern := { id := "p", name := "early", steps := [] }

def earlyText : String := "\x7b\"id\":\"p\",\"name\":\"early\",\"steps\":[]\x7d"

def latePattern : Pattern := { id := "p", name := "late", steps := [] }

def lateText : String := "\x7b\"id\":\"p\",\"name\":\"late\",\"steps\":[]\x7d"

/-- Three files with patterns of one id in the root directory, which lists them in no order. The name of one of them
tells no format. -/
def unorderedTree : FileTree where
  files := [
    (["late.json"], lateText.toUTF8),
    (["notes.txt"], lateText.toUTF8),
    (["early.json"], earlyText.toUTF8)]

theorem ofText?_earlyText : Pattern.ofText? earlyText = some earlyPattern := by
  have spelled : Document.read? earlyText = some (.object [(some "id", .string (some "p")),
      (some "name", .string (some "early")), (some "steps", .array [])]) := by
    simp [earlyText, Document.read?, JsonReader.value?, JsonReader.members?, JsonReader.skipBlanks,
      JsonReader.isBlank, JsonReader.string?, JsonReader.pieces, JsonReader.join?, List.dropWhile]
  rw [Pattern.ofText?, spelled]
  rfl

theorem ofText?_lateText : Pattern.ofText? lateText = some latePattern := by
  have spelled : Document.read? lateText = some (.object [(some "id", .string (some "p")),
      (some "name", .string (some "late")), (some "steps", .array [])]) := by
    simp [lateText, Document.read?, JsonReader.value?, JsonReader.members?, JsonReader.skipBlanks,
      JsonReader.isBlank, JsonReader.string?, JsonReader.pieces, JsonReader.join?, List.dropWhile]
  rw [Pattern.ofText?, spelled]
  rfl

theorem holds_unorderedTree {name : String} {pattern : Pattern} :
    FileTree.host.Holds unorderedTree "." name pattern ↔
      name = "early.json" ∧ pattern = earlyPattern ∨ name = "late.json" ∧ pattern = latePattern := by
  have there : FileTree.host.sees unorderedTree "." = some (.directory ["late.json", "notes.txt", "early.json"]) := rfl
  have early : HoldsPattern "early.json" (FileTree.host.sees unorderedTree (FileName.join "." "early.json"))
      earlyPattern := by
    have short : ¬ FileTree.pathBound ≤ 0 + (FileName.join "." "early.json").utf8ByteSize := by decide +kernel
    have place : unorderedTree.place? (FileName.join "." "early.json") = some ["early.json"] := by decide +kernel
    have there : unorderedTree.content? ["early.json"] = some earlyText.toUTF8 := by rfl
    have told : FileFormat.ofPath? "early.json" = some .json := by decide
    exact holdsPattern_of_place? short place there told ofText?_earlyText
  have late : HoldsPattern "late.json" (FileTree.host.sees unorderedTree (FileName.join "." "late.json"))
      latePattern := by
    have short : ¬ FileTree.pathBound ≤ 0 + (FileName.join "." "late.json").utf8ByteSize := by decide +kernel
    have place : unorderedTree.place? (FileName.join "." "late.json") = some ["late.json"] := by decide +kernel
    have there : unorderedTree.content? ["late.json"] = some lateText.toUTF8 := by rfl
    have told : FileFormat.ofPath? "late.json" = some .json := by decide
    exact holdsPattern_of_place? short place there told ofText?_lateText
  constructor
  · rintro ⟨names, there', member, holds⟩
    obtain ⟨⟩ := there.symm.trans there'
    rcases List.mem_cons.mp member with rfl | member
    · exact .inr ⟨rfl, holds.unique late⟩
    · rcases List.mem_cons.mp member with rfl | member
      · obtain ⟨told, _⟩ := holdsPattern_iff.mp holds
        have untold : (FileFormat.ofPath? "notes.txt").isSome = false := by decide
        rw [untold] at told
        cases told
      · cases List.mem_singleton.mp member
        exact .inl ⟨rfl, holds.unique early⟩
  · rintro (⟨rfl, rfl⟩ | ⟨rfl, rfl⟩)
    · exact ⟨_, there, by decide, early⟩
    · exact ⟨_, there, by decide, late⟩

theorem loads_in_order_tree : FileTree.host.Still ∧ FileTree.host.IsDirectory unorderedTree "." ∧
    ∃ catalog, (Catalog.empty.loadFrom? FileTree.host ".").run unorderedTree = (some (catalog, 2), unorderedTree) ∧
      catalog.get? "p" = some latePattern := by
  have still : FileTree.host.Still := fun _ _ => rfl
  have directory : FileTree.host.IsDirectory unorderedTree "." :=
    ⟨["late.json", "notes.txt", "early.json"], by rfl, by decide⟩
  obtain ⟨catalog, count, ran, loaded⟩ := (loads_in_order FileTree.host still).loaded .empty unorderedTree "." directory
  have both : Enumerates ["early.json", "late.json"]
      fun name => ∃ pattern, FileTree.host.Holds unorderedTree "." name pattern := by
    refine ⟨by decide, fun name => ?_⟩
    simp only [holds_unorderedTree, exists_or, exists_and_left, exists_eq, and_true, List.mem_cons,
      List.not_mem_nil, or_false]
  obtain ⟨names, enumerates, rfl⟩ := loaded.count
  rw [enumerates.unique both] at ran
  refine ⟨still, directory, catalog, ran, (loaded.found _ _).mpr (.inl ⟨"late.json", ?_, rfl, ?_⟩)⟩
  · exact holds_unorderedTree.mpr (.inr ⟨rfl, rfl⟩)
  · intro other pattern holds _
    rcases holds_unorderedTree.mp holds with ⟨rfl, _⟩ | ⟨rfl, _⟩
    · exact Std.le_of_lt (by decide)
    · exact String.le_refl _

end Host

end Orchestra
