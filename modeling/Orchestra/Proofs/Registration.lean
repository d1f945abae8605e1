import Mathlib.Data.List.Forall2
import Orchestra.Capability.Registry

namespace Orchestra

variable {σ α β : Type}

/-- The registry in which handlers were registered one after another, from none on. -/
def Registry.ofRegistrations (registrations : List (String × Handler σ)) : Registry σ :=
  registrations.foldl (fun registry entry => registry.register entry.1 entry.2) ⟨∅⟩

/-- The result of a call by the way in which the work of the handler ended; an answer is passed on by `deliver`. -/
inductive Settled (name : String) (handler : Handler σ) (deliver : α → β) : Ending α → Except CallError β → Prop
  | done (answer : α) : Settled name handler deliver (.done answer) (.ok (deliver answer))
  | failed (reasons : List String) : Settled name handler deliver (.failed reasons)
      (.error (.failed name handler.identity (": ".intercalate reasons)))
  | panicked (text : String) : Settled name handler deliver (.panicked (some text))
      (.error (.panicked name handler.identity text))
  /-- A panic may carry something else than a text. -/
  | speechless : Settled name handler deliver (.panicked none)
      (.error (.panicked name handler.identity "unknown panic"))

theorem Settled.field?_handler {name : String} {handler : Handler σ} {deliver : α → β} {ending : Ending α}
    {error : CallError} (settled : Settled name handler deliver ending (.error error)) :
    error.detail.field? "handler" = some (.string handler.identity) := by
  cases settled <;> rfl

namespace Registry

/-- What holds of a registry after these registrations. -/
structure Contract (registrations : List (String × Handler σ)) (registry : Registry σ) : Prop where
  names : Enumerates registry.names (· ∈ registrations.map Prod.fst)
  descriptions : List.Forall₂ (fun name entry => entry.1 = name ∧
    ∃ handler, Fields.Last registrations name handler ∧ entry.2 = handler.description)
    registry.names registry.descriptions
  executed : ∀ name handler, Fields.Last registrations name handler → ∀ params context s,
    Settled name handler id (handler.execute params context s).1 (registry.execute name params context s).result ∧
      (registry.execute name params context s).state = (handler.execute params context s).2
  streamed : ∀ name handler, Fields.Last registrations name handler → ∀ params context s,
    Settled name handler (guardItems name) (handler.stream params context s).1
      (registry.stream name params context s).result ∧
      (registry.stream name params context s).state = (handler.stream params context s).2
  /-- Nothing else that is or was registered has a part in a call. -/
  alone : ∀ others name handler, Fields.Last registrations name handler → Fields.Last others name handler →
    ∀ params context s,
      registry.execute name params context s = (ofRegistrations others).execute name params context s ∧
        registry.stream name params context s = (ofRegistrations others).stream name params context s
  unknown : ∀ name, name ∉ registrations.map Prod.fst → ∀ params context s,
    registry.execute name params context s = ⟨.error (.notFound name registry.names), s, []⟩ ∧
      registry.stream name params context s = ⟨.error (.notFound name registry.names), s, []⟩
  /-- Every error tells of the capability that was called, and of its handler if it has one. -/
  attributed : ∀ name params context s error,
    (registry.execute name params context s).result = .error error ∨
      (registry.stream name params context s).result = .error error →
    error.capability = name ∧ error.detail.field? "capability" = some (.string name) ∧
      ∀ handler, Fields.Last registrations name handler →
        error.detail.field? "handler" = some (.string handler.identity)
  /-- Registrations with the same last handler for each name make the same registry. -/
  determined : ∀ others, (∀ name handler, Fields.Last others name handler ↔ Fields.Last registrations name handler) →
    ofRegistrations others = registry

variable {registrations : List (String × Handler σ)} {registry : Registry σ} {name : String} {handler : Handler σ}

theorem settled_settle (name : String) (handler : Handler σ) (deliver : α → β) (ending : Ending α) :
    Settled name handler deliver ending ((settle name handler ending).map deliver) := by
  cases ending with
  | done answer => exact .done answer
  | failed reasons => exact .failed reasons
  | panicked payload =>
    cases payload with
    | none => exact .speechless
    | some text => exact .panicked text

theorem execute_of_found (found : registry.get? name = some handler) (params : Json) (context : CallContext) (s : σ) :
    Settled name handler id (handler.execute params context s).1 (registry.execute name params context s).result ∧
      (registry.execute name params context s).state = (handler.execute params context s).2 := by
  have settled := settled_settle name handler id (handler.execute params context s).1
  rw [Except.map_id] at settled
  rw [execute, found]
  exact ⟨settled, rfl⟩

theorem stream_of_found (found : registry.get? name = some handler) (params : Json) (context : CallContext) (s : σ) :
    Settled name handler (guardItems name) (handler.stream params context s).1
      (registry.stream name params context s).result ∧
      (registry.stream name params context s).state = (handler.stream params context s).2 := by
  rw [stream, found]
  exact ⟨settled_settle name handler (guardItems name) _, rfl⟩

theorem handlers_ofRegistrations (registrations : List (String × Handler σ)) :
    (ofRegistrations registrations).handlers = Dict.ofList registrations := by
  have each (registry : Registry σ) :
      (registrations.foldl (fun registry entry => registry.register entry.1 entry.2) registry).handlers =
        registry.handlers.extend registrations := by
    induction registrations generalizing registry with
    | nil => rfl
    | cons entry rest ih => exact ih (registry.register entry.1 entry.2)
  exact each ⟨∅⟩

/-- The handler under a name is the one that was registered last. -/
theorem get?_ofRegistrations :
    (ofRegistrations registrations).get? name = some handler ↔ Fields.Last registrations name handler := by
  rw [get?, handlers_ofRegistrations, Dict.get?_ofList_eq_some_iff]

/-- Of each name the last registration counts, and a call by the name comes to an output or to an error that names
the capability and its handler, whatever the handler does. -/
theorem contract_ofRegistrations (registrations : List (String × Handler σ)) :
    Contract registrations (ofRegistrations registrations) where
  names := {
    ascending := Dict.keys_ascending _
    mem_iff := fun name => by rw [Registry.names, handlers_ofRegistrations, Dict.mem_keys_ofList] }
  descriptions := by
    refine List.forall₂_map_left_iff.mpr (List.forall₂_map_right_iff.mpr (List.forall₂_same.mpr fun entry member => ?_))
    have found : (ofRegistrations registrations).get? entry.1 = some entry.2 := (Dict.ascending _).mem_iff.mp member
    exact ⟨rfl, entry.2, get?_ofRegistrations.mp found, rfl⟩
  executed name handler last := execute_of_found (get?_ofRegistrations.mpr last)
  streamed name handler last := stream_of_found (get?_ofRegistrations.mpr last)
  alone others name handler last last' params context s := by
    simp only [execute, stream, get?_ofRegistrations.mpr last, get?_ofRegistrations.mpr last', and_self]
  unknown name absent params context s := by
    have missing : (ofRegistrations registrations).get? name = none := by
      refine Option.eq_none_iff_forall_ne_some.mpr fun handler found => absent ?_
      exact Fields.exists_last_iff.mp ⟨handler, get?_ofRegistrations.mp found⟩
    simp only [execute, stream, missing, and_self]
  attributed name params context s error failure := by
    have own : error.capability = name := failure.elim execute_error stream_error
    refine ⟨own, by rw [error.field?_detail, own], fun handler last => ?_⟩
    have found := get?_ofRegistrations.mpr last
    rcases failure with failure | failure
    · exact (failure ▸ (execute_of_found found params context s).1).field?_handler
    · exact (failure ▸ (stream_of_found found params context s).1).field?_handler
  determined others same := by
    have handlers : (ofRegistrations others).handlers = (ofRegistrations registrations).handlers := by
      refine Dict.eq_of_get?_eq fun name => Option.ext fun handler => ?_
      exact get?_ofRegistrations.trans ((same name handler).trans get?_ofRegistrations.symm)
    exact congrArg Registry.mk handlers

/-- A name that is registered again keeps its one place. -/
example (first second other : Handler σ) :
    (ofRegistrations [("sum", first), ("echo", other), ("sum", second)]).descriptions =
      [("echo", other.description), ("sum", second.description)] := by cbv

end Registry

end Orchestra
