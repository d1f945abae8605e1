import Orchestra.Proofs.Spelling

namespace Orchestra

theorem Dict.mem_of_mem_entries_ofList {α : Type} {entries : List (String × α)} {entry : String × α}
    (member : entry ∈ (ofList entries).entries) : entry ∈ entries := by
  have found := (ofList entries).ascending.mem_iff.mp member
  rcases mem_of_get?_extend found with written | before
  · exact written
  · cases before

namespace Json

theorem exists_of_mem_canonicalFields {members : List (String × Json)} {member : String × Json}
    (there : member ∈ (Dict.ofList (canonicalFields members)).entries) :
    ∃ w, (member.1, w) ∈ members ∧ member.2 = w.canonical := by
  have written := Dict.mem_of_mem_entries_ofList there
  rw [canonicalFields_eq_map] at written
  obtain ⟨origin, member, rfl⟩ := List.mem_map.mp written
  exact ⟨origin.2, member, rfl⟩

theorem map_canonical_eq_self {items : List Json} (each : ∀ item ∈ items, item.canonical = item) :
    canonicalItems items = items := by
  rw [canonicalItems_eq_map]
  exact (List.map_congr_left each).trans (List.map_id items)

theorem canonicalFields_eq_self {members : List (String × Json)} (each : ∀ member ∈ members, member.2.canonical = member.2) :
    canonicalFields members = members := by
  rw [canonicalFields_eq_map]
  refine (List.map_congr_left fun member there => ?_).trans (List.map_id members)
  rw [each member there]
  rfl

mutual

theorem canonical_canonical (v : Json) : v.canonical.canonical = v.canonical := by
  cases v with
  | array items =>
    rw [canonical, canonical, map_canonical_eq_self]
    intro item member
    rw [canonicalItems_eq_map] at member
    obtain ⟨origin, there, rfl⟩ := List.mem_map.mp member
    exact canonicalItems_canonical items origin there
  | object members =>
    rw [canonical, canonical, canonicalFields_eq_self, Dict.ofList_entries]
    intro member there
    obtain ⟨w, origin, same⟩ := exists_of_mem_canonicalFields there
    rw [same]
    exact canonicalFields_canonical members _ origin
  | _ => rfl

theorem canonicalItems_canonical (items : List Json) : ∀ item ∈ items, item.canonical.canonical = item.canonical := by
  cases items with
  | nil => exact nofun
  | cons item items => exact List.forall_mem_cons.mpr ⟨canonical_canonical item, canonicalItems_canonical items⟩

theorem canonicalFields_canonical (members : List (String × Json)) :
    ∀ member ∈ members, member.2.canonical.canonical = member.2.canonical := by
  cases members with
  | nil => exact nofun
  | cons member members =>
    exact List.forall_mem_cons.mpr ⟨canonical_canonical member.2, canonicalFields_canonical members⟩

end

/-- What a value in order holds is in order. -/
theorem canonical_of_at {names : List String} {place : Nat} {v w : Json} (ordered : v.canonical = v)
    (there : At names place w v) : w.canonical = w := by
  cases there with
  | @member members name _ member =>
    rw [canonical, object.injEq] at ordered
    obtain ⟨origin, _, same⟩ := exists_of_mem_canonicalFields (ordered.symm ▸ member)
    obtain rfl : w = origin.canonical := same
    exact canonical_canonical origin
  | @item items found =>
    rw [canonical, canonicalItems_eq_map, array.injEq] at ordered
    have image : (items.map canonical)[place]? = some w.canonical := by rw [List.getElem?_map, found, Option.map_some]
    rw [ordered, found] at image
    exact (Option.some.inj image).symm

end Json

namespace Field

variable {field : Field} {members : List (String × Json)} {key : String} {w : Json}

theorem values_cons (field : Field) (key : String) (w : Json) (members : List (String × Json)) :
    field.values ((key, w) :: members) = if key ∈ field.names then w :: field.values members else field.values members := by
  unfold values
  split <;> simp_all

theorem values_insert_of_notMem (foreign : key ∉ field.names) :
    field.values (Fields.insert members key w) = field.values members := by
  induction members with
  | nil => rw [Fields.insert, values_cons, if_neg foreign]
  | cons member members ih =>
    obtain ⟨k, v⟩ := member
    unfold Fields.insert
    split
    · rw [values_cons, if_neg foreign]
    · split
      next same =>
        subst same
        rw [values_cons, values_cons, if_neg foreign, if_neg foreign]
      next => rw [values_cons, values_cons, ih]

theorem values_insert_of_mem (own : key ∈ field.names) (free : field.values members = []) :
    field.values (Fields.insert members key w) = [w] := by
  induction members with
  | nil => rw [Fields.insert, values_cons, if_pos own, free]
  | cons member members ih =>
    obtain ⟨k, v⟩ := member
    rw [values_cons] at free
    split at free
    next => cases free
    next foreign =>
      have different : key ≠ k := fun same => foreign (same ▸ own)
      rw [Fields.insert, if_neg different]
      split
      · rw [values_cons, values_cons, if_pos own, if_neg foreign, free]
      · rw [values_cons, if_neg foreign, ih free]

/-- One value under the names of a field stays the one value when the members are put in order. -/
theorem values_extend {d : Dict Json} {slot : Option Json}
    (single : field.values d.entries ++ field.values members = slot.toList) :
    field.values (d.extend members).entries = slot.toList := by
  induction members generalizing d with
  | nil => exact (List.append_nil _).symm.trans single
  | cons member members ih =>
    obtain ⟨key, w⟩ := member
    refine ih (d := d.insert key w) ?_
    rw [values_cons] at single
    split at single
    next own =>
      cases slot with
      | none => exact absurd single (by simp)
      | some _ =>
        rcases List.append_eq_singleton_iff.mp single with ⟨before, rest⟩ | ⟨_, rest⟩
        · rw [Dict.insert, values_insert_of_mem own before]
          exact rest
        · cases rest
    next foreign => rwa [Dict.insert, values_insert_of_notMem foreign]

/-- Under one name a dictionary has its entry for it. -/
theorem values_entries (d : Dict Json) (name : String) :
    values { names := [name], needed := true } d.entries = (d.get? name).toList := by
  obtain ⟨entries, ascending⟩ := d
  show values _ entries = (Fields.get? entries name).toList
  induction entries with
  | nil => rfl
  | cons entry entries ih =>
    obtain ⟨k, v⟩ := entry
    rw [values_cons, ih (List.pairwise_cons.mp ascending).2, Fields.get?]
    by_cases same : k = name
    · subst same
      rw [if_pos (List.mem_singleton_self _), if_pos rfl, Fields.get?_of_ascending ascending (String.lt_irrefl k)]
      rfl
    · rw [if_neg (by simpa using same), if_neg same]

theorem values_canonicalFields (field : Field) (members : List (String × Json)) :
    field.values (Json.canonicalFields members) = (field.values members).map .canonical := by
  rw [Json.canonicalFields_eq_map]
  induction members with
  | nil => rfl
  | cons member members ih =>
    rw [List.map_cons, values_cons, values_cons, ih]
    split <;> rfl

end Field

/-- A record stays one when it is put in order, and so do the values of its fields. -/
theorem Record.canonical {fields : List Field} {slots : List (Option Json)} {v : Json} (record : Record fields slots v) :
    Record fields (slots.map (Option.map .canonical)) v.canonical := by
  cases record with
  | @object members under =>
    rw [Json.canonical]
    refine .object (List.forall₂_map_right_iff.mpr (under.imp fun field slot own => ?_))
    refine Field.values_extend ?_
    rw [Field.values_canonicalFields, own]
    cases slot <;> rfl
  | @array items left same long =>
    rw [Json.canonical, Json.canonicalItems_eq_map]
    refine record_array_iff.mpr ⟨left, ?_, by rw [List.length_map, long]⟩
    rw [same, List.map_append, List.map_replicate, List.map_map, List.map_map]
    rfl

section Stability

variable {α : Type} {spelled : α → Json → Prop}

/-- Putting members in order keeps spellings. -/
def Stable (spelled : α → Json → Prop) : Prop := ∀ a w, spelled a w → spelled a w.canonical

theorem stable_text : Stable IsText := by
  rintro text _ rfl
  rfl

theorem stable_free : Stable IsFree := by
  rintro _ w rfl
  exact Json.canonical_canonical w

theorem Stable.nullable (stable : Stable spelled) : Stable (Nullable spelled) := by
  rintro _ _ (_ | given)
  · exact .null
  · exact .given (stable _ _ given)

theorem Stable.listed (stable : Stable spelled) : Stable (Listed spelled) := by
  rintro values _ ⟨all⟩
  rw [Json.canonical, Json.canonicalItems_eq_map]
  exact .array (List.forall₂_map_right_iff.mpr (all.imp fun a w => stable a w))

theorem Required.canonical {a : α} {slot : Option Json} (required : Required spelled a slot)
    (stable : ∀ w, spelled a w → spelled a w.canonical) : Required spelled a (slot.map .canonical) := by
  obtain ⟨given⟩ := required
  exact .given (stable _ given)

theorem Optional.canonical {fallback a : α} {slot : Option Json} (optional : Optional spelled fallback a slot)
    (stable : ∀ w, spelled a w → spelled a w.canonical) : Optional spelled fallback a (slot.map .canonical) := by
  obtain same | given := optional
  · exact .omitted same
  · exact .given (stable _ given)

end Stability

end Orchestra
