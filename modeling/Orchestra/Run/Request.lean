import Orchestra.Run.Runner

namespace Orchestra

variable {σ : Type}

inductive Request where
  | run (id : String) (inputs : Dict Json)
  | runAtDepth (id : String) (inputs : Dict Json) (depth : Nat)
  | route (request : RouteRequest)
  | stream (id : String) (inputs : Dict Json) (mode : StepMode) (departure : Departure)

/-- Serves a request. Only a stream has events. -/
def Runner.answer (runner : Runner σ) (request : Request) (session : Session σ) :
    Envelope × List Event × Session σ :=
  match request with
  | .run id inputs =>
    let (envelope, session) := runner.run id inputs session
    (envelope, [], session)
  | .runAtDepth id inputs depth =>
    let (envelope, session) := runner.runAtDepth id inputs depth session
    (envelope, [], session)
  | .route request =>
    let (envelope, session) := runner.route request session
    (envelope, [], session)
  | .stream id inputs mode departure => runner.stream id inputs mode departure session

end Orchestra
