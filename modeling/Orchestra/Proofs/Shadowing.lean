import Orchestra.Proofs.Moment
import Orchestra.Proofs.Unresolved

namespace Orchestra

namespace Template

/-- The template has a placeholder with this root. -/
def Rooted (template : Json) (root : String) : Prop :=
  ∃ place name rest, Mentions template place name ∧ Path.Splits name root rest

/-- What inputs and a state hold under a name: the entry of the inputs if there is one, else that of the state. -/
def held (inputs state : Dict Json) (root : String) : Option Json := (inputs.get? root).or (state.get? root)

/-- At this moment of a run, its placeholders take from the inputs what they took at its beginning. -/
structure Kept (inputs : Dict Json) (run : Run) : Prop where
  began : run.inputs = inputs
  /-- A placeholder whose root is an input is looked up in that input alone, also if it is not found there. -/
  lookup : ∀ name root rest input, Path.Splits name root rest → inputs.get? root = some input →
    Path.lookup name run.inputs run.state = Path.descend? input rest
  /-- The arguments of a step are as with any state that has the same entries under the other roots. -/
  params : ∀ (step : Step) index gate prepared state, (step.prepare index run gate).1 = .ok prepared →
    (∀ root, Rooted step.args root → inputs.get? root = none → run.state.get? root = state.get? root) →
    prepared.params = resolve inputs state step.args

/-- What of a state can be seen through the inputs. -/
structure Shadowed (inputs : Dict Json) : Prop where
  /-- The state is seen under names that are no inputs only. -/
  shadow : ∀ template state state', (∀ key, inputs.get? key = none → state.get? key = state'.get? key) →
    resolve inputs state template = resolve inputs state' template ∧
      unresolved inputs state template = unresolved inputs state' template
  /-- No output of a step changes what later steps take from the inputs. -/
  kept : ∀ {σ : Type} (runner : Runner σ) (nested : Nested σ) mode steps index (live : Live σ) i (before : Live σ),
    live.run.inputs = inputs → runner.ComesTo nested mode steps index live i before → Kept inputs before.run
  /-- Nothing is seen but what is held under the roots of the template. -/
  roots : ∀ template state inputs' state',
    (∀ root, Rooted template root → held inputs state root = held inputs' state' root) →
    resolve inputs state template = resolve inputs' state' template
  /-- New entries of the state give values to open placeholders, and change nothing if there are none. -/
  growth : ∀ template state state', (∀ key value, state.get? key = some value → state'.get? key = some value) →
    (unresolved inputs state' template).Sublist (unresolved inputs state template) ∧
      (unresolved inputs state template = [] → resolve inputs state template = resolve inputs state' template)

section Congruence

variable {inputs inputs' state state' : Dict Json}

theorem Part.filled_congr {name : String}
    (same : Path.lookup name inputs state = Path.lookup name inputs' state') :
    (Part.placeholder name).filled inputs state = (Part.placeholder name).filled inputs' state' := by
  rw [filled, filled, same]

theorem resolveText_congr {text : String}
    (same : ∀ name ∈ names text, Path.lookup name inputs state = Path.lookup name inputs' state') :
    resolveText inputs state text = resolveText inputs' state' text := by
  unfold resolveText
  split
  next name alone => rw [same name (mem_names_of_alone alone)]
  next =>
    rw [List.flatMap_def, List.flatMap_def]
    have pieces : (parts text).map (Part.filled inputs state) = (parts text).map (Part.filled inputs' state') := by
      refine List.map_congr_left fun part member => ?_
      cases part with
      | literal c => rfl
      | placeholder name => exact Part.filled_congr (same name (mem_names_iff.mpr member))
    rw [pieces]

mutual

theorem resolve_congr {template : Json}
    (same : ∀ name ∈ allNames template, Path.lookup name inputs state = Path.lookup name inputs' state') :
    resolve inputs state template = resolve inputs' state' template := by
  cases template with
  | string text => exact resolveText_congr same
  | array items => rw [resolve, resolve, resolveItems_congr same]
  | object fields => rw [resolve, resolve, resolveFields_congr same]
  | _ => rfl

theorem resolveItems_congr {items : List Json}
    (same : ∀ name ∈ allNamesOfItems items, Path.lookup name inputs state = Path.lookup name inputs' state') :
    resolveItems inputs state items = resolveItems inputs' state' items := by
  cases items with
  | nil => rfl
  | cons item rest =>
    obtain ⟨own, others⟩ := List.forall_mem_append.mp same
    rw [resolveItems, resolveItems, resolve_congr own, resolveItems_congr others]

theorem resolveFields_congr {fields : List (String × Json)}
    (same : ∀ name ∈ allNamesOfFields fields, Path.lookup name inputs state = Path.lookup name inputs' state') :
    resolveFields inputs state fields = resolveFields inputs' state' fields := by
  cases fields with
  | nil => rfl
  | cons field rest =>
    obtain ⟨own, others⟩ := List.forall_mem_append.mp same
    rw [resolveFields, resolveFields, resolve_congr own, resolveFields_congr others]

end

theorem unresolved_congr {template : Json}
    (same : ∀ name ∈ allNames template, Path.lookup name inputs state = Path.lookup name inputs' state') :
    unresolved inputs state template = unresolved inputs' state' template := by
  rw [unresolved, unresolved]
  refine congrArg List.eraseDups (List.filter_congr fun name member => ?_)
  rw [same name member]

/-- Placeholders look at nothing but what is held under their roots. -/
theorem lookup_eq_of_roots {template : Json}
    (same : ∀ root, Rooted template root → held inputs state root = held inputs' state' root) :
    ∀ name ∈ allNames template, Path.lookup name inputs state = Path.lookup name inputs' state' := by
  intro name member
  obtain ⟨place, mentions⟩ := mem_allNames_iff.mp member
  obtain ⟨root, rest, splits⟩ := Path.exists_splits name
  have roots := same root ⟨place, name, rest, mentions, splits⟩
  rw [held, held] at roots
  rw [splits.lookup, splits.lookup, roots]

/-- Where there is an input, the state is not looked at. -/
theorem held_eq_of_agree {root : String} (agree : inputs.get? root = none → state.get? root = state'.get? root) :
    held inputs state root = held inputs state' root := by
  rw [held, held]
  cases found : inputs.get? root with
  | none => rw [agree found]
  | some input => rfl

theorem lookup_of_extends {name : String} {value : Json}
    (extends' : ∀ key value, state.get? key = some value → state'.get? key = some value)
    (found : Path.lookup name inputs state = some value) : Path.lookup name inputs state' = some value := by
  obtain ⟨root, rest, splits⟩ := Path.exists_splits name
  rw [splits.lookup] at found ⊢
  obtain ⟨start, atRoot, descends⟩ := Option.bind_eq_some_iff.mp found
  have stays : (inputs.get? root).or (state'.get? root) = some start := by
    rcases Option.or_eq_some_iff.mp atRoot with input | ⟨absent, entry⟩
    · rw [input, Option.some_or]
    · rw [absent, Option.none_or, extends' root start entry]
  rw [stays, Option.bind_some, descends]

/-- What stays open when the state grows. -/
theorem unresolved_of_extends {template : Json}
    (extends' : ∀ key value, state.get? key = some value → state'.get? key = some value) :
    unresolved inputs state' template =
      (unresolved inputs state template).filter fun name => (Path.lookup name inputs state').isNone := by
  have narrower (name : String) : (Path.lookup name inputs state').isNone =
      ((Path.lookup name inputs state').isNone && (Path.lookup name inputs state).isNone) := by
    cases found : Path.lookup name inputs state with
    | none => simp
    | some value => simp [lookup_of_extends extends' found]
  rw [unresolved, unresolved, ← eraseDups_filter, List.filter_filter]
  exact congrArg List.eraseDups (List.filter_congr fun name _ => narrower name)

end Congruence

theorem kept_of_comesTo {σ : Type} {runner : Runner σ} {nested : Nested σ} {mode : StepMode} {steps : List Step}
    {index i : Nat} {live before : Live σ} (reached : runner.ComesTo nested mode steps index live i before) :
    Kept live.run.inputs before.run := by
  have same : before.run.inputs = live.run.inputs := by
    obtain ⟨outcomes, course⟩ := runner.runSteps_course nested mode (steps.take i) index live
    rw [reached.2] at course
    exact congrArg CallContext.inputs course.context_eq
  refine ⟨same, fun name root rest input splits found => ?_, fun step number gate prepared state ready agree => ?_⟩
  · rw [splits.lookup, same, found, Option.some_or, Option.bind_some]
  · rw [Step.prepare_params ready, same]
    exact resolve_congr (lookup_eq_of_roots fun root rooted => held_eq_of_agree (agree root rooted))

/-- A placeholder looks at one entry, that of its root, and the inputs hide the state; so outputs of steps do not
change what is taken from the inputs, and a state that grows takes no values away. -/
theorem shadowed (inputs : Dict Json) : Shadowed inputs where
  shadow template state state' agree := by
    have roots : ∀ root, Rooted template root → held inputs state root = held inputs state' root :=
      fun root _ => held_eq_of_agree (agree root)
    exact ⟨resolve_congr (lookup_eq_of_roots roots), unresolved_congr (lookup_eq_of_roots roots)⟩
  kept runner nested mode steps index live i before began reached := began ▸ kept_of_comesTo reached
  roots template state inputs' state' agree := resolve_congr (lookup_eq_of_roots agree)
  growth template state state' extends' := by
    rw [unresolved_of_extends extends']
    refine ⟨List.filter_sublist, fun none => resolve_congr fun name member => ?_⟩
    -- No placeholder is open, so each has a value, and keeps it.
    cases found : Path.lookup name inputs state with
    | none =>
      have isOpen : name ∈ unresolved inputs state template :=
        mem_unresolved_iff.mpr ⟨mem_allNames_iff.mp member, found⟩
      rw [none] at isOpen
      cases isOpen
    | some value => rw [lookup_of_extends extends' found]

/-- A path that fails in an input is not followed in the state. -/
example : resolve (Dict.ofList [("user", .object [])]) (Dict.ofList [("user", .object [("id", .null)])])
    (.string "\x7buser.id\x7d") = .string "\x7buser.id\x7d" :=
  rfl

end Template

end Orchestra
