import RemoteRun.Decimal.Shortest
import RemoteRun.Notice

/-!
# States of the connection

What those who watch the connection see of it.

**Results.** Outside of a wait for another attempt the number of attempts is zero;
listeners hear of every change of the state, and once more when no further attempt
is made.
-/

namespace RemoteRun

/-- Phases of the connection. -/
inductive ConnectionPhase where
  | disconnected
  | connecting
  | connected
  | reconnecting
deriving DecidableEq

/-- A phase, and the number of the attempt that is scheduled or under way. -/
structure ConnectionState where
  phase : ConnectionPhase
  attempt : Nat
deriving DecidableEq

/-- What listeners hear of. -/
inductive ConnectionEvent where
  | changed (state : ConnectionState)
  | reconnectFailed (attempts : Nat)
deriving DecidableEq

namespace ConnectionPhase

/-- The word for a phase. -/
def word : ConnectionPhase → String
  | .disconnected => "disconnected"
  | .connecting => "connecting"
  | .connected => "connected"
  | .reconnecting => "reconnecting"

end ConnectionPhase

namespace ConnectionState

/-- The state before the first attempt and after the last one. -/
def idle : ConnectionState := ⟨.disconnected, 0⟩

/-- Whether messages can be sent. -/
def isConnected (s : ConnectionState) : Bool :=
  s.phase == .connected

/-- A state in short. -/
def text (s : ConnectionState) : String :=
  s.phase.word ++ ":" ++ String.ofList (Decimal.digits s.attempt)

end ConnectionState

namespace ConnectionEvent

/-- What is noted of a listener that panics. -/
def panicNotice : Notice :=
  .error "connection listener panicked" []

end ConnectionEvent

end RemoteRun
