import Mathlib.Data.List.Forall2
import Mathlib.Data.List.Induction
import Orchestra.Proofs.Mention
import Orchestra.Proofs.Substitution

namespace Orchestra

section FirstOccurrence

variable {α : Type} [BEq α] [LawfulBEq α]

/-- An entry is kept if it was not there before. -/
theorem eraseDups_concat (entries : List α) (entry : α) :
    (entries ++ [entry]).eraseDups = if entry ∈ entries then entries.eraseDups else entries.eraseDups ++ [entry] := by
  rw [List.eraseDups_append]
  by_cases there : entry ∈ entries
  · simp [List.removeAll, there]
  · simp [List.removeAll, there, List.eraseDups_cons]

theorem nodup_eraseDups (entries : List α) : entries.eraseDups.Nodup := by
  induction entries using List.reverseRecOn with
  | nil => exact .nil
  | append_singleton entries entry ih =>
    rw [eraseDups_concat]
    split
    · exact ih
    next fresh =>
      refine List.nodup_append.mpr ⟨ih, by simp, fun old member new here same => fresh ?_⟩
      rw [← List.mem_singleton.mp here, ← same]
      exact List.mem_eraseDups.mp member

theorem eraseDups_filter (entries : List α) (holds : α → Bool) :
    (entries.filter holds).eraseDups = entries.eraseDups.filter holds := by
  induction entries using List.reverseRecOn with
  | nil => rfl
  | append_singleton entries entry ih =>
    rw [List.filter_append, eraseDups_concat]
    by_cases kept : holds entry = true
    · have same : entry ∈ entries.filter holds ↔ entry ∈ entries := by rw [List.mem_filter, and_iff_left kept]
      have own : [entry].filter holds = [entry] := List.filter_eq_self.mpr (by simpa using kept)
      simp only [own, eraseDups_concat, same, ih]
      split
      · rfl
      · rw [List.filter_append, own]
    · have none : [entry].filter holds = [] := List.filter_eq_nil_iff.mpr (by simpa using kept)
      rw [none, List.append_nil, ih]
      split
      · rfl
      · rw [List.filter_append, none, List.append_nil]

end FirstOccurrence

namespace Template

/-- Names that are listed in the order of their sites are listed in the order of their first sites. -/
theorem eraseDups_earlier {found : List (Place × String)} (sorted : found.Pairwise Earlier) :
    (found.map Prod.snd).eraseDups.Pairwise fun name other =>
      ∃ place, (place, name) ∈ found ∧ ∀ next, (next, other) ∈ found → place.Before next := by
  induction found using List.reverseRecOn with
  | nil => exact .nil
  | append_singleton found site ih =>
    obtain ⟨sorted, _, cross⟩ := List.pairwise_append.mp sorted
    -- The new site comes after all others, so what is before the earlier sites of a name is before all its sites.
    have extend {place : Place} {name other : String} (member : (place, name) ∈ found)
        (first : ∀ next, (next, other) ∈ found → place.Before next) :
        ∀ next, (next, other) ∈ found ++ [site] → place.Before next := by
      intro next there
      rcases List.mem_append.mp there with old | new
      · exact first next old
      · exact cross _ member _ new
    have kept : (found.map Prod.snd).eraseDups.Pairwise fun name other =>
        ∃ place, (place, name) ∈ found ++ [site] ∧ ∀ next, (next, other) ∈ found ++ [site] → place.Before next := by
      refine (ih sorted).imp ?_
      rintro name other ⟨place, member, first⟩
      exact ⟨place, List.mem_append_left _ member, extend member first⟩
    rw [List.map_append, List.map_singleton, eraseDups_concat]
    split
    · exact kept
    next fresh =>
      refine List.pairwise_append.mpr ⟨kept, List.pairwise_singleton _ _, ?_⟩
      intro name listed other here
      obtain rfl := List.mem_singleton.mp here
      obtain ⟨⟨place, _⟩, member, rfl⟩ := List.mem_map.mp (List.mem_eraseDups.mp listed)
      refine ⟨place, List.mem_append_left _ member, extend member fun next old => ?_⟩
      exact absurd (List.mem_map_of_mem old) fresh

section Relation

variable (inputs state : Dict Json)

/-- What a part of running text becomes if the placeholders of the listed names stay as they are written. -/
inductive Rendered (listed : List String) : Part → List Char → Prop
  | literal (c : Char) : Rendered listed (.literal c) [c]
  | kept {name : String} : name ∈ listed → Rendered listed (.placeholder name) (braced name.toList)
  | replaced {name : String} {value : Json} : name ∉ listed → Path.lookup name inputs state = some value →
      Rendered listed (.placeholder name) (inlined value).toList

/-- What a text becomes if the placeholders of the listed names stay as they are written, and no others. -/
inductive Spared (listed : List String) (text : String) : Json → Prop
  | alone {name : String} {value : Json} : Cut text.toList [.placeholder name] → name ∉ listed →
      Path.lookup name inputs state = some value → Spared listed text value
  | running {parts : List Part} {pieces : List (List Char)} : Cut text.toList parts →
      (∀ name, parts = [.placeholder name] → name ∈ listed) →
      List.Forall₂ (Rendered inputs state listed) parts pieces →
      Spared listed text (.string (String.ofList pieces.flatten))

/-- The list of open placeholders is exact, and filling in goes by it. -/
structure UnresolvedExact (template : Json) : Prop where
  nodup : (unresolved inputs state template).Nodup
  mem_iff : ∀ name, name ∈ unresolved inputs state template ↔
    (∃ place, Mentions template place name) ∧ Path.lookup name inputs state = none
  /-- If the objects of the template are in order, names follow their first mentions. -/
  ordered : template.canonical = template → (unresolved inputs state template).Pairwise (Leads template)
  unchanged : (∀ place name, Mentions template place name → name ∈ unresolved inputs state template) →
    resolve inputs state template = template
  spared : ∀ route text, Stands template route (.string text) → ∃ value,
    Stands (resolve inputs state template) route value ∧
      Spared inputs state (unresolved inputs state template) text value

end Relation

variable {inputs state : Dict Json} {template : Json} {text name : String}

theorem mem_names_iff : name ∈ names text ↔ .placeholder name ∈ parts text := by
  rw [names, List.mem_filterMap]
  constructor
  · rintro ⟨part, member, same⟩
    cases part with
    | literal c => cases same
    | placeholder other =>
      cases same
      exact member
  · exact fun member => ⟨_, member, rfl⟩

theorem mem_names_of_alone (alone : parts text = [.placeholder name]) : name ∈ names text := by
  rw [mem_names_iff, alone]
  exact List.mem_cons_self

theorem mem_unresolved_iff : name ∈ unresolved inputs state template ↔
    (∃ place, Mentions template place name) ∧ Path.lookup name inputs state = none := by
  rw [unresolved, List.mem_eraseDups, List.mem_filter, mem_allNames_iff, Option.isNone_iff_eq_none]

theorem unresolved_leads (ordered : template.canonical = template) :
    (unresolved inputs state template).Pairwise (Leads template) := by
  have walk : (allNames template).filter (fun name => (Path.lookup name inputs state).isNone) =
      ((sites template).filter fun site => (Path.lookup site.2 inputs state).isNone).map Prod.snd := by
    rw [← map_sites, List.filter_map]
    rfl
  have listed : unresolved inputs state template =
      (((sites template).filter fun site => (Path.lookup site.2 inputs state).isNone).map Prod.snd).eraseDups := by
    rw [unresolved, walk]
  have sorted := eraseDups_earlier ((sites_earlier ordered).filter fun site => (Path.lookup site.2 inputs state).isNone)
  rw [← listed] at sorted
  refine sorted.imp_of_mem ?_
  rintro name other _ isListed ⟨place, member, first⟩
  refine ⟨place, mem_sites_iff.mp (List.mem_filter.mp member).1, fun next mentions => first next ?_⟩
  refine List.mem_filter.mpr ⟨mem_sites_iff.mpr mentions, ?_⟩
  exact Option.isNone_iff_eq_none.mpr (mem_unresolved_iff.mp isListed).2

theorem Part.filled_of_none (absent : Path.lookup name inputs state = none) :
    (Part.placeholder name).filled inputs state = (Part.placeholder name).written := by
  rw [filled, absent]

/-- A text that is one placeholder is running text, too, if that has no value. -/
theorem resolveText_eq_running (absent : ∀ name, parts text = [.placeholder name] → Path.lookup name inputs state = none) :
    resolveText inputs state text = .string (String.ofList ((parts text).flatMap (Part.filled inputs state))) := by
  unfold resolveText
  split
  next name alone =>
    have whole := (cut_parts text).whole
    rw [alone, List.flatMap_cons, List.flatMap_nil, List.append_nil] at whole
    rw [absent name alone, Option.getD_none, alone, List.flatMap_cons, List.flatMap_nil, List.append_nil,
      Part.filled_of_none (absent name alone), ← whole, String.ofList_toList]
  next => rfl

/-- A text whose placeholders have no values stays as it is. -/
theorem resolveText_of_none (absent : ∀ name ∈ names text, Path.lookup name inputs state = none) :
    resolveText inputs state text = .string text := by
  have written : (parts text).flatMap (Part.filled inputs state) = (parts text).flatMap Part.written := by
    rw [List.flatMap_def, List.flatMap_def]
    refine congrArg List.flatten (List.map_congr_left fun part member => ?_)
    cases part with
    | literal c => rfl
    | placeholder name => exact Part.filled_of_none (absent name (mem_names_iff.mpr member))
  rw [resolveText_eq_running fun name alone => absent name (mem_names_of_alone alone), written,
    ← (cut_parts text).whole, String.ofList_toList]

mutual

theorem resolve_of_none {template : Json}
    (absent : ∀ name ∈ allNames template, Path.lookup name inputs state = none) :
    resolve inputs state template = template := by
  cases template with
  | string text => exact resolveText_of_none absent
  | array items => rw [resolve, resolveItems_of_none absent]
  | object fields => rw [resolve, resolveFields_of_none absent]
  | _ => rfl

theorem resolveItems_of_none {items : List Json}
    (absent : ∀ name ∈ allNamesOfItems items, Path.lookup name inputs state = none) :
    resolveItems inputs state items = items := by
  cases items with
  | nil => rfl
  | cons item rest =>
    obtain ⟨own, others⟩ := List.forall_mem_append.mp absent
    rw [resolveItems, resolve_of_none own, resolveItems_of_none others]

theorem resolveFields_of_none {fields : List (String × Json)}
    (absent : ∀ name ∈ allNamesOfFields fields, Path.lookup name inputs state = none) :
    resolveFields inputs state fields = fields := by
  cases fields with
  | nil => rfl
  | cons field rest =>
    obtain ⟨own, others⟩ := List.forall_mem_append.mp absent
    rw [resolveFields, resolve_of_none own, resolveFields_of_none others]

end

/-- Filling in changes what stands at a place, and not the places. -/
theorem stands_resolve {route : List Branch} {value : Json} (inputs state : Dict Json)
    (stands : Stands template route value) :
    Stands (resolve inputs state template) route (Template.resolve inputs state value) := by
  induction stands with
  | here value => exact .here _
  | item there _ ih =>
    refine .item ?_ ih
    rw [resolveItems_eq_map, List.getElem?_map, there, Option.map_some]
  | field there _ ih =>
    refine .field ?_ ih
    rw [resolveFields_eq_map]
    exact List.mem_map_of_mem there

section Sparing

variable {listed : List String}

/-- Filling in spares what has no value. -/
theorem rendered_filled {part : Part}
    (exact : ∀ name, part = .placeholder name → (name ∈ listed ↔ Path.lookup name inputs state = none)) :
    Rendered inputs state listed part (part.filled inputs state) := by
  cases part with
  | literal c => exact .literal c
  | placeholder name =>
    cases found : Path.lookup name inputs state with
    | none =>
      rw [Part.filled_of_none found]
      exact .kept ((exact name rfl).mpr found)
    | some value =>
      have unlisted : name ∉ listed := fun member => by simpa [found] using (exact name rfl).mp member
      have same : (Part.placeholder name).filled inputs state = (inlined value).toList := by rw [Part.filled, found]
      rw [same]
      exact .replaced unlisted found

theorem spared_resolveText (exact : ∀ name ∈ names text, name ∈ listed ↔ Path.lookup name inputs state = none) :
    Spared inputs state listed text (resolveText inputs state text) := by
  have cut := cut_parts text
  have each : ∀ part ∈ parts text, Rendered inputs state listed part (part.filled inputs state) := by
    refine fun part member => rendered_filled fun name same => exact name ?_
    exact mem_names_iff.mpr (same ▸ member)
  have pieces : List.Forall₂ (Rendered inputs state listed) (parts text)
      ((parts text).map (Part.filled inputs state)) :=
    List.forall₂_map_right_iff.mpr (List.forall₂_same.mpr each)
  by_cases single : ∃ name, parts text = [.placeholder name] ∧ name ∉ listed
  · obtain ⟨name, alone, unlisted⟩ := single
    have known : Path.lookup name inputs state ≠ none :=
      fun absent => unlisted ((exact name (mem_names_of_alone alone)).mpr absent)
    obtain ⟨value, found⟩ := Option.ne_none_iff_exists'.mp known
    have whole : resolveText inputs state text = value := by
      rw [resolveText, alone]
      dsimp only
      rw [found, Option.getD_some]
    rw [whole]
    exact .alone (alone ▸ cut) unlisted found
  · have kept : ∀ name, parts text = [.placeholder name] → name ∈ listed :=
      fun name alone => Classical.not_not.mp fun unlisted => single ⟨name, alone, unlisted⟩
    rw [resolveText_eq_running fun name alone => (exact name (mem_names_of_alone alone)).mp (kept name alone),
      List.flatMap_def]
    exact .running cut kept pieces

end Sparing

/-- The list of open placeholders and the filling in go by the same occurrences: what is listed stays as it is
written, and everything else is replaced. -/
theorem unresolved_exact (inputs state : Dict Json) (template : Json) : UnresolvedExact inputs state template where
  nodup := nodup_eraseDups _
  mem_iff _ := mem_unresolved_iff
  ordered := unresolved_leads
  unchanged all := by
    refine resolve_of_none fun name member => ?_
    obtain ⟨place, mentions⟩ := mem_allNames_iff.mp member
    exact (mem_unresolved_iff.mp (all place name mentions)).2
  spared route text stands := by
    refine ⟨_, stands_resolve inputs state stands, spared_resolveText fun name member => ?_⟩
    have inText : name ∈ allNames (.string text) := member
    obtain ⟨place, inText⟩ := mem_allNames_iff.mp inText
    have mentions : Mentions template ⟨route, place.start⟩ name := ⟨text, stands, (mentions_text_iff.mp inText).2⟩
    rw [mem_unresolved_iff, and_iff_right ⟨_, mentions⟩]

example : unresolved ∅ (Dict.ofList [("c", .null)])
    (.array [.string "\x7bb\x7d-\x7bc\x7d-\x7ba\x7d", .object [("\x7bkey\x7d", .string "\x7bb\x7d\x7bc.d\x7d")]]) =
    ["b", "a", "c.d"] := by
  decide

end Template

end Orchestra
