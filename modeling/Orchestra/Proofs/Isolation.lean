import Orchestra.Proofs.Steady
import Orchestra.Proofs.Tally

namespace Orchestra

variable {σ : Type}

def Runner.answers (runner : Runner σ) : List Request → Session σ → List (Envelope × List Event) × Session σ
  | [], session => ([], session)
  | request :: rest, session =>
    let (envelope, events, session) := runner.answer request session
    let (answers, session) := answers runner rest session
    ((envelope, events) :: answers, session)

/-- The answer to a request that is the only one of its session. -/
def Runner.answerAlone (runner : Runner σ) (session : Session σ) (request : Request) : Envelope × List Event :=
  ((runner.answer request session).1, (runner.answer request session).2.1)

/-- Telemetries that come from others by the same records. -/
def Telemetry.Grown (start start' left right : Telemetry) : Prop :=
  ∃ records : List RunRecord,
    left = records.foldl Telemetry.track start ∧ right = records.foldl Telemetry.track start'

theorem Telemetry.Grown.track {start start' left right : Telemetry} (grown : Telemetry.Grown start start' left right)
    (record : RunRecord) : Telemetry.Grown start start' (left.track record) (right.track record) := by
  obtain ⟨records, rfl, rfl⟩ := grown
  exact ⟨records ++ [record], by rw [List.foldl_append]; rfl, by rw [List.foldl_append]; rfl⟩

namespace Runner

/-- No request of these shows in the answer to another, and their order does not show in the sums. -/
structure Isolated (runner : Runner σ) (source : Option FlagLoad) (requests : List Request) (session : Session σ) :
    Prop where
  alone : ∀ fresh : Session σ, fresh.Steady source →
    (runner.answers requests session).1 = requests.map (runner.answerAlone fresh)
  permuted : ∀ permuted, requests.Perm permuted →
    (runner.answers requests session).1.Perm (runner.answers permuted session).1
  sums : ∀ permuted, requests.Perm permuted →
    (runner.answers requests session).2.telemetry.SameSums (runner.answers permuted session).2.telemetry

variable {runner : Runner σ} {source : Option FlagLoad} {session other : Session σ}

/-- In two steady sessions a request has the same answer, and adds the same records. -/
theorem answer_grown (stateless : runner.registry.Stateless) (steady : session.Steady source)
    (steady' : other.Steady source) (request : Request) :
    runner.answerAlone session request = runner.answerAlone other request ∧
      Session.SteadyPair source (Telemetry.Grown session.telemetry other.telemetry)
        (runner.answer request session).2.2 (runner.answer request other).2.2 := by
  have accord : runner.Accord runner
      (Session.SteadyPair source (Telemetry.Grown session.telemetry other.telemetry)) :=
    accord_of_stateless rfl rfl rfl rfl stateless fun record _ _ grown => grown.track record
  obtain ⟨envelope, events, pair⟩ := agree_iff.mp (accord.answer rfl request ⟨steady, steady', [], rfl, rfl⟩)
  exact ⟨Prod.ext envelope events, pair⟩

theorem answer_steady (stateless : runner.registry.Stateless) (steady : session.Steady source) (request : Request) :
    (runner.answer request session).2.2.Steady source :=
  (answer_grown stateless steady steady request).2.steadyLeft

theorem answers_alone (stateless : runner.registry.Stateless) (steady : session.Steady source)
    (fresh : other.Steady source) (requests : List Request) :
    (runner.answers requests session).1 = requests.map (runner.answerAlone other) := by
  induction requests generalizing session with
  | nil => rfl
  | cons request rest ih =>
    have first := (answer_grown stateless steady fresh request).1
    rw [List.map_cons, ← first, ← ih (answer_steady stateless steady request)]
    rfl

/-- A request keeps sums the same that were the same. -/
theorem answer_sums (stateless : runner.registry.Stateless) (steady : session.Steady source)
    (steady' : other.Steady source) (same : session.telemetry.SameSums other.telemetry) (request : Request) :
    (runner.answer request session).2.2.telemetry.SameSums (runner.answer request other).2.2.telemetry := by
  obtain ⟨records, left, right⟩ := (answer_grown stateless steady steady' request).2.counted
  rw [left, right]
  exact same.foldl records

theorem answers_sums (stateless : runner.registry.Stateless) (steady : session.Steady source)
    (steady' : other.Steady source) (same : session.telemetry.SameSums other.telemetry) (requests : List Request) :
    (runner.answers requests session).2.telemetry.SameSums (runner.answers requests other).2.telemetry := by
  induction requests generalizing session other with
  | nil => exact same
  | cons request rest ih =>
    have sums := answer_sums stateless steady steady' same request
    exact ih (answer_steady stateless steady request) (answer_steady stateless steady' request) sums

/-- Two requests add the same records in either order, only in another order. -/
theorem answer_swap_sums (stateless : runner.registry.Stateless) (steady : session.Steady source)
    (steady' : other.Steady source) (same : session.telemetry.SameSums other.telemetry) (request later : Request) :
    (runner.answer later (runner.answer request session).2.2).2.2.telemetry.SameSums
      (runner.answer request (runner.answer later other).2.2).2.2.telemetry := by
  have middle := answer_steady stateless steady request
  have middle' := answer_steady stateless steady' later
  obtain ⟨records, first, last'⟩ := (answer_grown stateless steady middle' request).2.counted
  obtain ⟨more, last, first'⟩ := (answer_grown stateless middle steady' later).2.counted
  rw [last, last', first, first', ← List.foldl_append, ← List.foldl_append]
  exact same.foldl_perm List.perm_append_comm

theorem answers_perm_sums (stateless : runner.registry.Stateless) {requests permuted : List Request}
    (perm : requests.Perm permuted) (steady : session.Steady source) (steady' : other.Steady source)
    (same : session.telemetry.SameSums other.telemetry) :
    (runner.answers requests session).2.telemetry.SameSums (runner.answers permuted other).2.telemetry := by
  induction perm generalizing session other with
  | nil => exact same
  | cons request _ ih =>
    have sums := answer_sums stateless steady steady' same request
    exact ih (answer_steady stateless steady request) (answer_steady stateless steady' request) sums
  | swap request later rest =>
    have sums := answer_swap_sums stateless steady steady' same later request
    have steady := answer_steady stateless (answer_steady stateless steady later) request
    have steady' := answer_steady stateless (answer_steady stateless steady' request) later
    exact answers_sums stateless steady steady' sums rest
  | trans _ _ ih ih' =>
    -- The first half stays in one session, the second goes over to the other.
    exact (ih steady steady ⟨rfl, rfl, rfl, rfl, rfl⟩).trans (ih' steady steady' same)

/-- A runner without a memory answers every request as if it were the first one, so the order of requests decides
nothing but the order of the answers. -/
theorem answers_isolated (stateless : runner.registry.Stateless) (steady : session.Steady source)
    (requests : List Request) : runner.Isolated source requests session where
  alone fresh fresh' := answers_alone stateless steady fresh' requests
  permuted permuted perm := by
    rw [answers_alone stateless steady steady, answers_alone stateless steady steady]
    exact perm.map _
  sums permuted perm := answers_perm_sums stateless perm steady steady ⟨rfl, rfl, rfl, rfl, rfl⟩

theorem answers_isolated_gated :
    let runner : Runner Unit := { bare with catalog := .ofList [haltingPattern] }
    let requests : List Request := [.run "halting" ∅, .route ⟨"echo", .object [], ∅⟩,
      .stream "unknown" ∅ .evented .never, .runAtDepth "halting" ∅ 3]
    runner.registry.Stateless ∧ gatedSession.Steady (some (.config ∅)) ∧
      runner.Isolated (some (.config ∅)) requests gatedSession := by
  have steady : gatedSession.Steady (some (.config ∅)) := .gated rfl ⟨fun _ => rfl, nofun⟩
  exact ⟨Builtin.registry_stateless, steady, answers_isolated Builtin.registry_stateless steady _⟩

end Runner

end Orchestra
