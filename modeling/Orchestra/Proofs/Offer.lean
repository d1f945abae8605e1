import Orchestra.Outputs

namespace Orchestra

namespace Outputs

/-- The names that outputs are declared under. -/
def declared : Outputs → List String
  | panels declared => declared.map Panel.id
  | keys declared => declared
  | mapping remarks => remarks.keys

/-- A declared output is found in a state. -/
inductive Offers : Outputs → State → String → Json → Prop
  | key {declared : List String} {state key value} : key ∈ declared → state.get? key = some value →
      Offers (.keys declared) state key value
  | remark {remarks : Dict Json} {state key value} : key ∈ remarks.keys → state.get? key = some value →
      Offers (.mapping remarks) state key value
  | panel {declared : List Panel} {panel state value} : panel ∈ declared → panel.value? state = some value →
      Offers (.panels declared) state panel.id value

/-- The outputs that are found, as they are written one after another. -/
def found (outputs : Outputs) (state : State) : List (String × Json) :=
  match outputs with
  | panels declared => declared.filterMap fun panel => (panel.value? state).map (panel.id, ·)
  | keys declared => declared.filterMap fun key => (state.get? key).map (key, ·)
  | mapping remarks => remarks.keys.filterMap fun key => (state.get? key).map (key, ·)

variable {outputs : Outputs} {state : State} {key : String} {value : Json}

theorem Offers.declared (offers : outputs.Offers state key value) : key ∈ outputs.declared := by
  cases offers with
  | key member => exact member
  | remark member => exact member
  | panel member => exact List.mem_map_of_mem member

theorem mem_found_iff : (key, value) ∈ outputs.found state ↔ outputs.Offers state key value := by
  constructor
  · intro member
    cases outputs with
    | panels declared =>
      obtain ⟨panel, here, offered⟩ := List.mem_filterMap.mp member
      obtain ⟨value, found, same⟩ := Option.map_eq_some_iff.mp offered
      cases same
      exact .panel here found
    | keys declared =>
      obtain ⟨key, here, offered⟩ := List.mem_filterMap.mp member
      obtain ⟨value, found, same⟩ := Option.map_eq_some_iff.mp offered
      cases same
      exact .key here found
    | mapping remarks =>
      obtain ⟨key, here, offered⟩ := List.mem_filterMap.mp member
      obtain ⟨value, found, same⟩ := Option.map_eq_some_iff.mp offered
      cases same
      exact .remark here found
  · intro offers
    cases offers with
    | key member found => exact List.mem_filterMap.mpr ⟨_, member, by rw [found]; rfl⟩
    | remark member found => exact List.mem_filterMap.mpr ⟨_, member, by rw [found]; rfl⟩
    | panel member found => exact List.mem_filterMap.mpr ⟨_, member, by rw [found]; rfl⟩

theorem resolve_data (outputs : Outputs) (state : State) :
    (outputs.resolve state).data = .ofList (outputs.found state) := by
  cases outputs <;> rfl

theorem offers_of_resolve (resolved : (outputs.resolve state).data.get? key = some value) :
    outputs.Offers state key value := by
  rw [resolve_data] at resolved
  rcases Dict.mem_of_get?_extend resolved with member | before
  · exact mem_found_iff.mp member
  · cases before

theorem isEmpty_resolve_iff :
    (outputs.resolve state).data.isEmpty = true ↔ ∀ key value, ¬ outputs.Offers state key value := by
  rw [resolve_data, Dict.isEmpty_ofList_iff, List.eq_nil_iff_forall_not_mem]
  simp only [← mem_found_iff, Prod.forall]

end Outputs

end Orchestra
