import Orchestra.Flag.Bucket

namespace Orchestra

/-- Why a source has no configuration. -/
inductive FlagError where
  | unreadable (reason : String)
  | malformed (reason : String)
deriving DecidableEq, Repr

def FlagError.message : FlagError → String
  | unreadable reason => "Feature flag config unreadable: " ++ reason
  | malformed reason => "Feature flag config malformed: " ++ reason

/-- What one load of a source comes to. -/
inductive FlagLoad where
  | config (config : FlagConfig)
  | error (error : FlagError)
  | panic (text : String)

/-- A source answers its loads one after another, counted from zero. -/
structure FlagSource where
  answer : Nat → FlagLoad
  loads : Nat := 0

namespace FlagSource

/-- A source that always has the same configuration. -/
def constant (config : FlagConfig) : FlagSource := ⟨fun _ => .config config, 0⟩

/-- A source that plays a list of answers, the last of which repeats. -/
def ofList (answers : List FlagLoad) : FlagSource :=
  ⟨fun n => (answers[min n (answers.length - 1)]?).getD (.config ∅), 0⟩

/-- The answer of a file, as long as its text stays; none is for a file that cannot be read. -/
def fileAnswer (path : String) : Option String → FlagLoad
  | none => .error (.unreadable path)
  | some text => ((FlagConfig.ofText? text).map .config).getD (.error (.malformed path))

end FlagSource

/-- When a gate loads its source again. -/
inductive Reload where
  | always
  | once
deriving DecidableEq, Repr

/-- A gate with the configuration that it loaded last. -/
structure Gate where
  source : FlagSource
  reload : Reload
  cache : Option FlagConfig := none

/-- What unwinds a run. -/
structure Panic where
  text : String
deriving DecidableEq, Repr

/-- The answer of a gate about one flag. -/
structure Decision where
  flag : String
  enabled : Bool
  rollout : Double
  identifier : String

def Decision.toJson (decision : Decision) : Json :=
  .object [
    ("flag", .string decision.flag),
    ("enabled", .bool decision.enabled),
    ("rollout_percentage", .number (.real decision.rollout)),
    ("identifier", .string decision.identifier)]

/-- What a configuration says about a flag; an unknown flag is off. -/
def FlagConfig.decision (config : FlagConfig) (flag : String) (context : Dict Json) : Decision :=
  let who := identifier context
  match config.lookup flag with
  | some spec => ⟨flag, spec.isOn flag who, spec.rollout, who⟩
  | none => ⟨flag, false, .zero, who⟩

namespace Gate

/-- Loads the source. A failed load counts as an empty configuration, a panic leaves the cache alone. -/
def load (gate : Gate) : Except Panic FlagConfig × Gate :=
  let source := { gate.source with loads := gate.source.loads + 1 }
  match gate.source.answer gate.source.loads with
  | .config config => (.ok config, { gate with source, cache := some config })
  | .error _ => (.ok ∅, { gate with source, cache := some ∅ })
  | .panic text => (.error ⟨text⟩, { gate with source })

/-- The configuration to decide by. -/
def snapshot (gate : Gate) : Except Panic FlagConfig × Gate :=
  match gate.reload, gate.cache with
  | .once, some config => (.ok config, gate)
  | _, _ => gate.load

def decision (gate : Gate) (flag : String) (context : Dict Json) : Except Panic Decision × Gate :=
  let (config, gate) := gate.snapshot
  (config.map (·.decision flag context), gate)

def isEnabled (gate : Gate) (flag : String) (context : Dict Json) : Except Panic Bool × Gate :=
  let (decision, gate) := gate.decision flag context
  (decision.map (·.enabled), gate)

end Gate

end Orchestra
