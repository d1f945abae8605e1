import Orchestra.Proofs.Choice

namespace Orchestra

/-- A question to a gate: whether a flag is on for a caller. -/
structure FlagQuestion where
  flag : String
  context : Dict Json

/-- The decision about a question by what a load comes to. -/
def FlagLoad.decision (load : FlagLoad) (question : FlagQuestion) : Except Panic Decision :=
  load.settled.map fun config => config.decision question.flag question.context

def FlagLoad.Panics (load : FlagLoad) : Prop := ∃ text, load = .panic text

theorem FlagLoad.settled_of_not_panics {load : FlagLoad} (calm : ¬ load.Panics) : ∃ config, load.settled = .ok config := by
  cases load with
  | config config => exact ⟨config, rfl⟩
  | error error => exact ⟨∅, rfl⟩
  | panic text => exact absurd ⟨text, rfl⟩ calm

theorem FlagLoad.decision_of_settled {load : FlagLoad} {config : FlagConfig} (settled : load.settled = .ok config)
    (question : FlagQuestion) : load.decision question = .ok (config.decision question.flag question.context) := by
  rw [FlagLoad.decision, settled]
  rfl

namespace Gate

/-- What a gate decides about questions one after another, and what it has come to then. -/
def decisions (gate : Gate) : List FlagQuestion → List (Except Panic Decision) × Gate
  | [] => ([], gate)
  | question :: rest =>
    let (answer, next) := gate.decision question.flag question.context
    let (answers, last) := next.decisions rest
    (answer :: answers, last)

/-- What a load of the source will come to, counted from the next load on. -/
def upcoming (gate : Gate) (n : Nat) : FlagLoad := gate.source.answer (gate.source.loads + n)

/-- The gate after one more load, with this snapshot. -/
def loaded (gate : Gate) (cache : Option FlagConfig) : Gate :=
  { gate with source := { gate.source with loads := gate.source.loads + 1 }, cache }

variable {gate : Gate} {question : FlagQuestion} {config : FlagConfig}

@[simp] theorem loaded_loads (gate : Gate) (cache : Option FlagConfig) :
    (gate.loaded cache).source.loads = gate.source.loads + 1 := rfl

@[simp] theorem upcoming_loaded (gate : Gate) (cache : Option FlagConfig) (n : Nat) :
    (gate.loaded cache).upcoming n = gate.upcoming (n + 1) := by
  have place : gate.source.loads + 1 + n = gate.source.loads + (n + 1) := by omega
  simp only [upcoming, loaded, place]

/-- Only a load that panics keeps the snapshot that was there. -/
theorem load_eq (gate : Gate) : gate.load =
    ((gate.upcoming 0).settled, gate.loaded ((gate.upcoming 0).settled.toOption.or gate.cache)) := by
  unfold load upcoming
  rw [Nat.add_zero]
  cases gate.source.answer gate.source.loads with
  | config config => rfl
  | error error => rfl
  | panic text => rfl

theorem decision_of_loads (loads : gate.Loads) (question : FlagQuestion) :
    gate.decision question.flag question.context = ((gate.upcoming 0).decision question,
      gate.loaded ((gate.upcoming 0).settled.toOption.or gate.cache)) := by
  have loaded : gate.snapshot = gate.load := by
    unfold snapshot
    split
    next config once cached => rw [loads once] at cached; cases cached
    · rfl
  simp only [decision, loaded, load_eq]
  rfl

theorem decision_of_cached (once : gate.reload = .once) (cached : gate.cache = some config)
    (question : FlagQuestion) : gate.decision question.flag question.context =
      (.ok (config.decision question.flag question.context), gate) := by
  simp only [decision, snapshot, once, cached]
  rfl

theorem decisions_cons (gate : Gate) (question : FlagQuestion) (rest : List FlagQuestion) :
    gate.decisions (question :: rest) =
      ((gate.decision question.flag question.context).1 ::
          ((gate.decision question.flag question.context).2.decisions rest).1,
        ((gate.decision question.flag question.context).2.decisions rest).2) := rfl

theorem decisions_of_cached (once : gate.reload = .once) (cached : gate.cache = some config)
    (questions : List FlagQuestion) : gate.decisions questions =
      (questions.map fun question => .ok (config.decision question.flag question.context), gate) := by
  induction questions with
  | nil => rfl
  | cons question rest ih => rw [decisions_cons, decision_of_cached once cached, ih, List.map_cons]

/-- A gate that always loads goes through its source one load for each question. -/
theorem decisions_always (always : gate.reload = .always) (questions : List FlagQuestion) :
    (gate.decisions questions).1 = questions.mapIdx (fun i question => (gate.upcoming i).decision question) ∧
      (gate.decisions questions).2.source.loads = gate.source.loads + questions.length := by
  induction questions generalizing gate with
  | nil => exact ⟨rfl, rfl⟩
  | cons question rest ih =>
    have loads : gate.Loads := fun once => by rw [always] at once; cases once
    rw [decisions_cons, decision_of_loads loads]
    generalize (gate.upcoming 0).settled.toOption.or gate.cache = cache
    obtain ⟨answers, count⟩ := @ih (gate.loaded cache) always
    refine ⟨?_, ?_⟩
    · simp only [List.mapIdx_cons, answers, upcoming_loaded]
    · rw [count, loaded_loads, List.length_cons]
      omega

/-- A gate that loads once goes through its source as far as the first load that does not panic, and decides all
later questions by that load. -/
theorem decisions_once {questions : List FlagQuestion} {n : Nat} (once : gate.reload = .once)
    (fresh : gate.cache = none) (panics : ∀ i < n, (gate.upcoming i).Panics)
    (calm : n < questions.length → ¬ (gate.upcoming n).Panics) :
    (gate.decisions questions).1 =
        questions.mapIdx (fun i question => (gate.upcoming (min i n)).decision question) ∧
      (gate.decisions questions).2.source.loads = gate.source.loads + min questions.length (n + 1) ∧
      (gate.decisions questions).2.cache =
        if n < questions.length then (gate.upcoming n).settled.toOption else none := by
  induction questions generalizing gate n with
  | nil => exact ⟨rfl, by simp [decisions], fresh⟩
  | cons question rest ih =>
    rw [decisions_cons, decision_of_loads fun _ => fresh, fresh, Option.or_none, List.length_cons]
    cases n with
    | zero =>
      obtain ⟨config, settled⟩ := FlagLoad.settled_of_not_panics (calm (Nat.succ_pos _))
      have held : (gate.upcoming 0).settled.toOption = some config := by rw [settled]; rfl
      have once' : (gate.loaded (some config)).reload = .once := once
      rw [held, decisions_of_cached once' rfl rest]
      refine ⟨?_, ?_, ?_⟩
      · refine List.ext_getElem? fun i => ?_
        cases i with
        | zero => simp [FlagLoad.decision_of_settled settled]
        | succ i => simp [FlagLoad.decision_of_settled settled]
      · rw [loaded_loads]
        omega
      · rw [if_pos (Nat.succ_pos _)]
        rfl
    | succ n =>
      obtain ⟨text, panic⟩ := panics 0 (Nat.succ_pos n)
      have dropped : (gate.upcoming 0).settled.toOption = none := by rw [panic]; rfl
      have panics' : ∀ i < n, ((gate.loaded none).upcoming i).Panics := fun i lower => by
        rw [upcoming_loaded]
        exact panics (i + 1) (Nat.succ_lt_succ lower)
      have calm' : n < rest.length → ¬ ((gate.loaded none).upcoming n).Panics := fun within => by
        rw [upcoming_loaded]
        exact calm (Nat.succ_lt_succ within)
      obtain ⟨answers, count, cache⟩ := @ih (gate.loaded none) n once rfl panics' calm'
      rw [dropped]
      refine ⟨?_, ?_, ?_⟩
      · simp only [List.mapIdx_cons, answers, upcoming_loaded, Nat.zero_min, Nat.add_min_add_right]
      · rw [count, loaded_loads]
        omega
      · simp only [cache, upcoming_loaded, Nat.add_lt_add_iff_right]

/-- The same gate with a source that will answer differently. -/
def answering (gate : Gate) (answer : Nat → FlagLoad) : Gate := { gate with source := { gate.source with answer } }

/-- What a gate without a snapshot that loads once makes of questions, if there are `n` loads that panic before one
that does not. With no more than `n` questions, it has not come to that one yet. -/
structure SettlesAt (gate : Gate) (questions : List FlagQuestion) (n : Nat) : Prop where
  loads : (gate.decisions questions).2.source.loads = gate.source.loads + min questions.length (n + 1)
  answers : (gate.decisions questions).1 =
    questions.mapIdx fun i question => (gate.upcoming (min i n)).decision question
  /-- From that load on, decisions are by its configuration. -/
  settled : ∀ config, (gate.upcoming n).settled = .ok config → ∀ i question, n ≤ i → questions[i]? = some question →
    (gate.decisions questions).1[i]? = some (.ok (config.decision question.flag question.context))
  cache : (gate.decisions questions).2.cache =
    if n < questions.length then (gate.upcoming n).settled.toOption else none
  /-- Later loads would not matter. -/
  independent : ∀ answer, (∀ i ≤ n, (gate.answering answer).upcoming i = gate.upcoming i) →
    ((gate.answering answer).decisions questions).1 = (gate.decisions questions).1

/-- The protocol by which a gate takes snapshots of its source. -/
structure SnapshotProtocol (gate : Gate) (questions : List FlagQuestion) : Prop where
  always_loads : gate.reload = .always →
    (gate.decisions questions).2.source.loads = gate.source.loads + questions.length
  always_answers : gate.reload = .always → (gate.decisions questions).1 =
    questions.mapIdx fun i question => (gate.upcoming i).decision question
  once : gate.reload = .once → gate.cache = none → ∀ n, (∀ i < n, (gate.upcoming i).Panics) →
    (n < questions.length → ¬ (gate.upcoming n).Panics) → gate.SettlesAt questions n
  /-- With a snapshot, a gate that loads once never loads again. -/
  never : gate.reload = .once → ∀ config, gate.cache = some config → gate.decisions questions =
    (questions.map fun question => .ok (config.decision question.flag question.context), gate)
  /-- A load that panics is counted, and leaves the snapshot as it was. -/
  panicking : gate.Loads → ∀ (question : FlagQuestion) text, gate.upcoming 0 = .panic text →
    gate.decision question.flag question.context = (.error ⟨text⟩, gate.loaded gate.cache)
  /-- A load that fails is kept as the empty configuration, by which all is off. -/
  failing : gate.Loads → ∀ (question : FlagQuestion) error, gate.upcoming 0 = .error error →
    gate.decision question.flag question.context =
      (.ok ⟨question.flag, false, .zero, identifier question.context⟩, gate.loaded (some ∅))
  loading : gate.Loads → ∀ (question : FlagQuestion) config, gate.upcoming 0 = .config config →
    gate.decision question.flag question.context =
      (.ok (config.decision question.flag question.context), gate.loaded (some config))

theorem settlesAt {questions : List FlagQuestion} {n : Nat} (once : gate.reload = .once) (fresh : gate.cache = none)
    (panics : ∀ i < n, (gate.upcoming i).Panics) (calm : n < questions.length → ¬ (gate.upcoming n).Panics) :
    gate.SettlesAt questions n := by
  obtain ⟨answers, loads, cache⟩ := decisions_once once fresh panics calm
  refine ⟨loads, answers, fun config settled i question after here => ?_, cache, fun answer same => ?_⟩
  · rw [answers, List.getElem?_mapIdx, here, Option.map_some, Nat.min_eq_right after,
      FlagLoad.decision_of_settled settled]
  · have panics' : ∀ i < n, ((gate.answering answer).upcoming i).Panics := fun i lower => by
      rw [same i (Nat.le_of_lt lower)]
      exact panics i lower
    have calm' : n < questions.length → ¬ ((gate.answering answer).upcoming n).Panics := by
      rw [same n (Nat.le_refl n)]
      exact calm
    have once' : (gate.answering answer).reload = .once := once
    obtain ⟨answers', -, -⟩ := decisions_once once' fresh panics' calm'
    have agree (i : Nat) := same (min i n) (Nat.min_le_right i n)
    rw [answers', answers]
    simp only [agree]

theorem decision_empty (flag : String) (context : Dict Json) :
    FlagConfig.decision ∅ flag context = ⟨flag, false, .zero, identifier context⟩ := by
  have absent : FlagConfig.lookup ∅ flag = none := by
    unfold FlagConfig.lookup
    split <;> rfl
  rw [FlagConfig.decision, absent]

/-- A gate that always loads decides each question by a load of its own. A gate that loads once decides by the first
load that does not panic, from that load on. -/
theorem snapshot_protocol (gate : Gate) (questions : List FlagQuestion) : gate.SnapshotProtocol questions where
  always_loads always := (decisions_always always questions).2
  always_answers always := (decisions_always always questions).1
  once once fresh n panics calm := settlesAt once fresh panics calm
  never once config cached := decisions_of_cached once cached questions
  panicking loads question text panic := by
    rw [decision_of_loads loads, panic]
    rfl
  failing loads question error failed := by
    rw [decision_of_loads loads, failed, FlagLoad.decision, ← decision_empty]
    rfl
  loading loads question config loaded := by
    rw [decision_of_loads loads, loaded]
    rfl

end Gate

end Orchestra
