import Mathlib.Data.List.Forall2
import Orchestra.Proofs.Offer

namespace Orchestra

theorem Enumerates.keys_dict (d : Dict Json) : Enumerates d.keys fun key => (d.get? key).isSome = true :=
  ⟨d.keys_ascending, fun _ => Dict.mem_keys_iff⟩

/-- What can be seen of a warning: its kind, its subject and the keys that it lists. -/
structure Warning.Shows (warning : Warning) (kind subject : String) (keys : List String) : Prop where
  kind : warning.kind = kind
  subject : warning.subject = subject
  keys : warning.keys = keys

namespace Outputs

/-- The keys that outputs declare, one after another: those of a list, or those of a mapping in ascending order. -/
inductive Lists : Outputs → List String → Prop
  | keys (declared : List String) : Lists (.keys declared) declared
  | mapping {remarks : Dict Json} {declared : List String} :
      Enumerates declared (fun key => (remarks.get? key).isSome = true) → Lists (.mapping remarks) declared

/-- Declared keys are divided into those that the state has, which give the data, and the missing ones. -/
structure KeysAccounted (outputs : Outputs) (declared : List String) (state : State) : Prop where
  data : ∀ key value, (outputs.resolve state).data.get? key = some value ↔
    key ∈ declared ∧ state.get? key = some value
  /-- Missing keys are told in the order of declaration, as often as they are declared. -/
  warnings : ∀ available, Enumerates available (fun key => (state.get? key).isSome = true) →
    List.Forall₂ (fun key warning => warning.Shows "missing_key" key available)
      (declared.filter fun key => (state.get? key).isNone) (outputs.resolve state).warnings
  count : declared.length =
    (outputs.resolve state).warnings.length + declared.countP fun key => (state.get? key).isSome
  /-- Nothing but the declared keys has an influence, in particular no remark of a mapping. -/
  same : ∀ other : Outputs, other.Lists declared → other.resolve state = outputs.resolve state
  nothing : ((outputs.resolve state).data = ∅ ∧ (outputs.resolve state).warnings = []) ↔ declared = []

variable {outputs : Outputs} {declared : List String} {state : State} {key : String} {value : Json}

theorem Lists.resolve_eq (lists : outputs.Lists declared) (state : State) :
    outputs.resolve state = resolveKeys declared state := by
  cases lists with
  | keys => rfl
  | @mapping remarks _ enumerates => rw [resolve, enumerates.unique (.keys_dict remarks)]

/-- The data are the part of the state under the declared keys. -/
theorem data_resolveKeys :
    (resolveKeys declared state).data.get? key = some value ↔ key ∈ declared ∧ state.get? key = some value := by
  have offers {value : Json} :
      (keys declared).Offers state key value ↔ key ∈ declared ∧ state.get? key = some value := by
    constructor
    · intro offers
      cases offers with
      | key member found => exact ⟨member, found⟩
    · exact fun ⟨member, found⟩ => .key member found
  have resolves {value : Json} (resolved : ((keys declared).resolve state).data.get? key = some value) :
      key ∈ declared ∧ state.get? key = some value := offers.mp (offers_of_resolve resolved)
  constructor
  · exact resolves
  · intro there
    have member : (key, value) ∈ (keys declared).found state := mem_found_iff.mpr (offers.mpr there)
    have written : (((keys declared).resolve state).data.get? key).isSome = true := by
      rw [resolve_data]
      exact Dict.isSome_get?_extend (.inr (List.mem_map_of_mem member))
    obtain ⟨other, resolved⟩ := Option.isSome_iff_exists.mp written
    -- Whatever was written last under the key is what the state has there.
    have found := (resolves resolved).2
    rw [there.2, Option.some.injEq] at found
    rw [found]
    exact resolved

theorem warnings_resolveKeys :
    (resolveKeys declared state).warnings =
      (declared.filter fun key => (state.get? key).isNone).map (.missingKey · state.keys) := by
  refine congrArg (List.map (Warning.missingKey · state.keys)) (List.filter_congr fun key _ => ?_)
  rw [Dict.contains, Option.not_isSome]

/-- Each declared entry is accounted for: by the entry of the state under its key, or by one warning. -/
theorem keys_accounted (lists : outputs.Lists declared) (state : State) : outputs.KeysAccounted declared state where
  data key value := by rw [lists.resolve_eq, data_resolveKeys]
  warnings available enumerates := by
    rw [lists.resolve_eq, warnings_resolveKeys, enumerates.unique (.keys_dict state)]
    exact List.forall₂_map_right_iff.mpr (List.forall₂_same.mpr fun _ _ => ⟨rfl, rfl, rfl⟩)
  count := by
    have present : declared.countP (fun key => (state.get? key).isSome) =
        declared.countP fun key => ¬ (state.get? key).isNone = true :=
      List.countP_congr fun key _ => by simp [Option.isSome_iff_ne_none]
    rw [lists.resolve_eq, warnings_resolveKeys, List.length_map, ← List.countP_eq_length_filter, present]
    exact List.length_eq_countP_add_countP fun key => (state.get? key).isNone
  same other lists' := by rw [lists'.resolve_eq, lists.resolve_eq]
  nothing := by
    rw [lists.resolve_eq]
    constructor
    · rintro ⟨data, warnings⟩
      rw [warnings_resolveKeys, List.map_eq_nil_iff, List.filter_eq_nil_iff] at warnings
      refine List.eq_nil_iff_forall_not_mem.mpr fun key member => ?_
      obtain ⟨value, found⟩ := Option.ne_none_iff_exists'.mp (by simpa using warnings key member)
      have resolved := data_resolveKeys.mpr ⟨member, found⟩
      rw [data] at resolved
      cases resolved
    · rintro rfl
      exact ⟨rfl, rfl⟩

/-- A mapping with one missing key, and a remark that nobody reads. -/
theorem keys_accounted_mapping :
    (Outputs.mapping (.ofList [("twr", .null), ("dcf", .bool true)])).Lists ["dcf", "twr"] ∧
      (Outputs.mapping (.ofList [("twr", .null), ("dcf", .bool true)])).KeysAccounted ["dcf", "twr"]
        (.ofList [("twr", .bool false)]) := by
  have lists : (Outputs.mapping (.ofList [("twr", .null), ("dcf", .bool true)])).Lists ["dcf", "twr"] :=
    .mapping (Enumerates.keys_dict (.ofList [("twr", .null), ("dcf", .bool true)]))
  exact ⟨lists, keys_accounted lists _⟩

end Outputs

end Orchestra
