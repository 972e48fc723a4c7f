import RemoteRun.Command.Outcome
import RemoteRun.Command.Retry

/-!
# Requests to execute

A request to execute a diagram, from its start to its return.

**Algorithm.** Over the connection a request waits until there is one and hands its
message on.  Over a call it repeats failing calls as the retry policy says.  A request
that is cancelled returns in its next turn, whatever else it could observe.

**Results.** A request that has returned keeps its result and takes no further turn.
-/

namespace RemoteRun

/-- How a request reaches the engine. -/
inductive DeliveryPath where
  | connection
  | call
deriving DecidableEq

/-- What a request returns when it was handed to the engine: the way it took, the calls
that failed before, and the number of nodes. -/
structure Receipt where
  path : DeliveryPath
  retries : Nat
  nodeCount : Nat
deriving DecidableEq

/-- The frames that follow a call, up to an error. -/
abbrev CallFrames := List (Except CallError String)

/-- Where a request stands. -/
inductive RequestStage where
  | waiting
  | calling (retries : Nat)
  | pausing (retries : Nat)
  | returned (result : Except Failure Receipt)

/-- A request to execute a diagram. -/
structure Request where
  message : Outbound
  nodeCount : Nat
  stage : RequestStage
  cancelled : Bool := false

/-- How requests are handed on. -/
structure Delivery where
  path : DeliveryPath := .connection
  waitLimit : Duration := .ofSecs 5
  retry : RetryPolicy := {}

/-- What a request observes in one turn. -/
inductive RequestObservation where
  | cancelled
  | connected
  | timedOut
  | unavailable (cause : ConnectionError)
  | answered (outcome : Except CallError CallFrames)
  | woken

/-- What the world has to do for a request. -/
inductive RequestEffect where
  | call (message : Outbound)
  | rest (delay : Duration)
  | forward (frames : CallFrames)
  | note (notice : Notice)

namespace CallFrames

/-- The frames before the first error. -/
def accepted : CallFrames → List String
  | .ok text :: frames => text :: accepted frames
  | _ => []

/-- The first error. -/
def fault? : CallFrames → Option CallError
  | [] => none
  | .ok _ :: frames => fault? frames
  | .error e :: _ => some e

/-- What is noted of the frames of a call. -/
def notices (frames : CallFrames) : List Notice :=
  match frames.fault? with
  | none => []
  | some e =>
      [.warn "execute call stream failed"
        [("error", .str e.message), ("forwarded", .ofNat frames.accepted.length)]]

end CallFrames

namespace Request

/-- Whether a request has not returned. -/
def inFlight (r : Request) : Bool :=
  match r.stage with
  | .returned _ => false
  | _ => true

/-- The result of a request that has returned. -/
def result? (r : Request) : Option (Except Failure Receipt) :=
  match r.stage with
  | .returned result => some result
  | _ => none

/-- A request that starts on a path. -/
def start (path : DeliveryPath) (message : Outbound) (nodeCount : Nat) : Request :=
  ⟨message, nodeCount, match path with | .connection => .waiting | .call => .calling 0, false⟩

/-- A request at another stage. -/
def turnTo (r : Request) (stage : RequestStage) : Request :=
  { r with stage := stage }

/-- Return; a failure is noted. -/
def finish (r : Request) (result : Except Failure Receipt) : Request × List RequestEffect :=
  (r.turnTo (.returned result),
    match result with
    | .ok _ => []
    | .error e => [.note (.returned e.message)])

/-- Return after the message was handed to the connection. -/
def handedOn (r : Request) (result : Except ConnectionError Unit) : Request × List RequestEffect :=
  match result with
  | .ok () => r.finish (.ok ⟨.connection, 0, r.nodeCount⟩)
  | .error e => r.finish (.error (.connection e))

/-- Return because there was no connection in time; this is noted of the wait as well. -/
def timeOut (r : Request) (limit : Duration) : Request × List RequestEffect :=
  let cause := ConnectionError.waitTimeout limit
  let (r, effects) := r.finish (.error (.connection cause))
  (r, .note (.returned cause.message) :: effects)

/-- Go on after a call. -/
def answer (r : Request) (policy : RetryPolicy) (retries : Nat)
    (outcome : Except CallError CallFrames) : Request × List RequestEffect :=
  let notes := match outcome with
    | .ok _ => []
    | .error e => (Retry.notices policy retries e).map RequestEffect.note
  match Retry.decide policy retries outcome with
  | .finish (.ok v) =>
      let (r, effects) := r.finish (.ok ⟨.call, v.retries, r.nodeCount⟩)
      (r, effects ++ [.forward v.value])
  | .finish (.error e) =>
      let (r, effects) := r.finish (.error (.call e))
      (r, notes ++ effects)
  | .wait delay => (r.turnTo (.pausing (retries + 1)), notes ++ [.rest delay])

/-- What is to be done for a request that has just been started. -/
def startEffects (r : Request) (limit : Duration) : List RequestEffect :=
  match r.stage with
  | .waiting => [.rest limit]
  | .calling _ => [.call r.message]
  | _ => []

/-- The turn of a request that was not cancelled, apart from handing its message on. -/
def observe (r : Request) (delivery : Delivery) (o : RequestObservation) :
    Request × List RequestEffect :=
  match r.stage, o with
  | .waiting, .timedOut => r.timeOut delivery.waitLimit
  | .waiting, .unavailable cause => r.finish (.error (.connection cause))
  | .calling retries, .answered outcome => r.answer delivery.retry retries outcome
  | .pausing retries, .woken => (r.turnTo (.calling retries), [.call r.message])
  | _, _ => (r, [])

/-- A turn of a request, over a place that takes messages. -/
def turn {σ : Type} (send : Sink σ) (sink : σ) (r : Request) (delivery : Delivery)
    (o : RequestObservation) : σ × Request × List RequestEffect :=
  if r.cancelled then
    match r.stage, o with
    | .returned _, _ => (sink, r, [])
    | _, .cancelled => (sink, r.finish (.error (.call .aborted)))
    | _, _ => (sink, r, [])
  else
    match r.stage, o with
    | .waiting, .connected =>
        let (sink, result) := send r.message sink
        (sink, r.handedOn result)
    | _, o => (sink, r.observe delivery o)

end Request

end RemoteRun
