import Mathlib.Data.List.Basic
import Orchestra.Catalog.Directory
import Orchestra.Proofs.FileFormat

namespace Orchestra

/-- A file holds a pattern if its name tells a format, and its content is a text that describes the pattern in it. -/
inductive HoldsPattern (name : String) : Option FileNode → Pattern → Prop
  | file {format : FileFormat} {content : ByteArray} {text : String} {pattern : Pattern} :
      FileFormat.ofPath? name = some format → String.fromUTF8? content = some text →
      Pattern.ofFormat? format text = some pattern → HoldsPattern name (some (.file content)) pattern

variable {name id : String} {node : Option FileNode} {pattern : Pattern} {listing : Listing} {catalog : Catalog}

theorem FileNode.text?_eq_some_iff {text : String} {node : FileNode} :
    node.text? = some text ↔ ∃ content, node = .file content ∧ String.fromUTF8? content = some text := by
  cases node with
  | file content => simp [FileNode.text?]
  | directory => simp [FileNode.text?]

theorem Pattern.ofNode_toOption (path : String) (node : Option FileNode) :
    (Pattern.ofNode path node).toOption =
      (node.bind FileNode.text?).bind (ofFormat? ((FileFormat.ofPath? path).getD .json)) := by
  rw [ofNode]
  split
  next unreadable => rw [unreadable]; rfl
  next text readable =>
    rw [readable, Option.bind_some]
    dsimp only
    split
    next described => rw [described]; rfl
    next undescribed => rw [undescribed]; rfl

theorem holdsPattern_iff : HoldsPattern name node pattern ↔
    (FileFormat.ofPath? name).isSome = true ∧ (Pattern.ofNode name node).toOption = some pattern := by
  rw [Pattern.ofNode_toOption]
  constructor
  · rintro ⟨told, readable, described⟩
    refine ⟨by rw [told]; rfl, ?_⟩
    rw [told, Option.bind_some, FileNode.text?, readable]
    exact described
  · rintro ⟨told, found⟩
    obtain ⟨format, told⟩ := Option.isSome_iff_exists.mp told
    obtain ⟨text, readable, described⟩ := Option.bind_eq_some_iff.mp found
    obtain ⟨node, rfl, readable⟩ := Option.bind_eq_some_iff.mp readable
    obtain ⟨content, rfl, readable⟩ := FileNode.text?_eq_some_iff.mp readable
    rw [told] at described
    exact .file told readable described

theorem HoldsPattern.unique {other : Pattern} (holds : HoldsPattern name node pattern)
    (holds' : HoldsPattern name node other) : pattern = other :=
  Option.some.inj ((holdsPattern_iff.mp holds).2.symm.trans (holdsPattern_iff.mp holds').2)

/-- The files of a listing that hold patterns, in the order of their names. -/
def Listing.held (listing : Listing) : List (String × Pattern) :=
  ((listing.filter fun entry => (FileFormat.ofPath? entry.1).isSome).mergeSort fun a b => a.1 ≤ b.1).filterMap
    fun entry => (Pattern.ofNode entry.1 entry.2).toOption.map (entry.1, ·)

namespace Listing

theorem patternsOf_eq (listing : Listing) : Catalog.patternsOf listing = listing.held.map Prod.snd := by
  rw [Catalog.patternsOf, held, List.map_filterMap]
  simp [Function.comp_def]

theorem mem_held_iff :
    (name, pattern) ∈ listing.held ↔ ∃ node, (name, node) ∈ listing ∧ HoldsPattern name node pattern := by
  simp only [held, List.mem_filterMap, List.mem_mergeSort, List.mem_filter, Option.map_eq_some_iff, holdsPattern_iff]
  constructor
  · rintro ⟨⟨name, node⟩, ⟨listed, told⟩, pattern, found, ⟨⟩⟩
    exact ⟨node, listed, told, found⟩
  · rintro ⟨node, listed, told, found⟩
    exact ⟨(name, node), ⟨listed, told⟩, pattern, found, rfl⟩

theorem held_sorted (listing : Listing) : listing.held.Pairwise fun file other => file.1 ≤ other.1 := by
  have sorted : ((listing.filter fun entry => (FileFormat.ofPath? entry.1).isSome).mergeSort
      fun a b => a.1 ≤ b.1).Pairwise fun a b => decide (a.1 ≤ b.1) = true := by
    apply List.pairwise_mergeSort
    · intro a b c lower upper
      exact decide_eq_true (String.le_trans (of_decide_eq_true lower) (of_decide_eq_true upper))
    · intro a b
      rw [Bool.or_eq_true, decide_eq_true_eq, decide_eq_true_eq]
      exact String.le_total a.1 b.1
  refine List.pairwise_filterMap.mpr (sorted.imp fun {entry other} lower => ?_)
  rintro _ found _ found'
  obtain ⟨_, _, rfl⟩ := Option.map_eq_some_iff.mp found
  obtain ⟨_, _, rfl⟩ := Option.map_eq_some_iff.mp found'
  exact of_decide_eq_true lower

theorem held_distinct (once : (listing.map Prod.fst).Nodup) :
    listing.held.Pairwise fun file other => file.1 ≠ other.1 := by
  have distinct := (List.pairwise_map.mp once).filter fun entry => (FileFormat.ofPath? entry.1).isSome
  have sorted := ((List.mergeSort_perm _ fun a b => decide (a.1 ≤ b.1)).pairwise_iff Ne.symm).mpr distinct
  refine List.pairwise_filterMap.mpr (sorted.imp fun {entry other} different => ?_)
  rintro _ found _ found'
  obtain ⟨_, _, rfl⟩ := Option.map_eq_some_iff.mp found
  obtain ⟨_, _, rfl⟩ := Option.map_eq_some_iff.mp found'
  exact different

/-- A directory that lists each name once is read once for each name. -/
theorem enumerates_held (once : (listing.map Prod.fst).Nodup) :
    Enumerates (listing.held.map Prod.fst) fun name => ∃ pattern, (name, pattern) ∈ listing.held where
  ascending := by
    refine List.pairwise_map.mpr (listing.held_sorted.and (held_distinct once) |>.imp fun {file other} both => ?_)
    exact String.not_le.mp fun upper => both.2 (String.le_antisymm both.1 upper)
  mem_iff name := by simp

/-- Of the files with patterns of this id, the one with the greatest name has this pattern. -/
def Topmost (files : List (String × Pattern)) (id : String) (pattern : Pattern) : Prop :=
  ∃ name, (name, pattern) ∈ files ∧ pattern.id = id ∧
    ∀ other pattern', (other, pattern') ∈ files → pattern'.id = id → other ≤ name

section Topmost

variable {files : List (String × Pattern)}

theorem Topmost.of_last (sorted : files.Pairwise fun file other => file.1 ≤ other.1)
    (last : Fields.Last (files.map fun file => (file.2.id, file.2)) id pattern) : Topmost files id pattern := by
  obtain ⟨before, after, whole, absent⟩ := last
  obtain ⟨front, back, rfl, rfl, same⟩ := List.map_eq_append_iff.mp whole
  obtain ⟨⟨name, _⟩, rest, rfl, ⟨⟩, rfl⟩ := List.map_eq_cons_iff.mp same
  refine ⟨name, by simp, rfl, fun other pattern' member own => ?_⟩
  -- Files before the last entry have lesser names, and files behind it have other ids.
  rw [List.pairwise_append, List.pairwise_cons] at sorted
  rcases List.mem_append.mp member with earlier | here
  · exact sorted.2.2 _ earlier _ List.mem_cons_self
  · rcases List.mem_cons.mp here with own | later
    · obtain ⟨rfl, _⟩ := Prod.mk.inj own
      exact String.le_refl other
    · refine absurd ?_ absent
      rw [List.map_map]
      exact List.mem_map.mpr ⟨_, later, own⟩

/-- What is written last under an id comes from the greatest name. -/
theorem last_iff_topmost (sorted : files.Pairwise fun file other => file.1 ≤ other.1)
    (single : ∀ name pattern other, (name, pattern) ∈ files → (name, other) ∈ files → pattern = other) :
    Fields.Last (files.map fun file => (file.2.id, file.2)) id pattern ↔ Topmost files id pattern := by
  refine ⟨.of_last sorted, fun ⟨name, member, own, highest⟩ => ?_⟩
  have written : id ∈ (files.map fun file => (file.2.id, file.2)).map Prod.fst := by
    rw [List.map_map]
    exact List.mem_map.mpr ⟨_, member, own⟩
  -- Some entry is the last one, so its name is the same, and a name has one pattern.
  obtain ⟨pattern', last⟩ := Fields.exists_last_iff.mpr written
  obtain ⟨name', member', own', highest'⟩ := Topmost.of_last sorted last
  obtain rfl := String.le_antisymm (highest name' pattern' member' own') (highest' name pattern member own)
  rwa [single name' pattern pattern' member member']

end Topmost

end Listing

namespace Catalog

theorem patterns_foldl_insert (patterns : List Pattern) (catalog : Catalog) :
    (patterns.foldl insert catalog).patterns =
      catalog.patterns.extend (patterns.map fun pattern => (pattern.id, pattern)) := by
  induction patterns generalizing catalog with
  | nil => rfl
  | cons pattern rest ih => exact ih (catalog.insert pattern)

theorem eq_of_get?_eq {other : Catalog} (same : ∀ id, catalog.get? id = other.get? id) : catalog = other := by
  obtain ⟨patterns, _⟩ := catalog
  obtain ⟨patterns', _⟩ := other
  obtain rfl : patterns = patterns' := Dict.eq_of_get?_eq same
  rfl

theorem get?_load : (catalog.load listing).1.get? id = some pattern ↔
    Fields.Last (listing.held.map fun file => (file.2.id, file.2)) id pattern ∨
      id ∉ listing.held.map (fun file => file.2.id) ∧ catalog.get? id = some pattern := by
  rw [load, get?, patterns_foldl_insert, Listing.patternsOf_eq, List.map_map, Dict.get?_extend_eq_some_iff, List.map_map]
  rfl

theorem count_load (catalog : Catalog) (listing : Listing) : (catalog.load listing).2 = listing.held.length := by
  rw [load, Listing.patternsOf_eq, List.length_map]

end Catalog

end Orchestra
