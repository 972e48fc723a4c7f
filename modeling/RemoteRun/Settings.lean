import RemoteRun.Execution.Machine
import RemoteRun.Time.Backoff

/-!
# Settings

Where the engine is and how patiently it is asked.

**Input.** Settings are built step by step from the default ones, or read from the
variables of an environment.  A variable that holds no number is passed over.

**Results.** A pending capacity of zero stands for the default one, and a heartbeat
of zero seconds in the environment turns the heartbeat off.
-/

namespace RemoteRun

/-- The settings of a client. -/
structure Settings where
  socketUrl : String := "ws://localhost:8000/api/ws"
  httpUrl : Option String := none
  connectTimeout : Duration := .ofSecs 10
  waitTimeout : Duration := .ofSecs 5
  heartbeat : Option Duration := some (.ofSecs 30)
  pendingCapacity : Nat := Machine.defaultCapacity
  reconnect : ReconnectPolicy := {}
  retry : RetryPolicy := {}

/-- One step in building settings. -/
inductive Setting where
  | httpUrl (url : String)
  | connectTimeout (limit : Duration)
  | waitTimeout (limit : Duration)
  | heartbeat (interval : Option Duration)
  | pendingCapacity (capacity : Nat)
  | reconnect (policy : ReconnectPolicy)
  | retry (policy : RetryPolicy)

namespace Settings

/-- The default settings with another address. -/
def ofUrl (url : String) : Settings :=
  { socketUrl := url }

/-- Settings after a step. -/
def set (s : Settings) : Setting → Settings
  | .httpUrl url => { s with httpUrl := some url }
  | .connectTimeout limit => { s with connectTimeout := limit }
  | .waitTimeout limit => { s with waitTimeout := limit }
  | .heartbeat interval => { s with heartbeat := interval }
  | .pendingCapacity capacity =>
      { s with pendingCapacity := if capacity = 0 then Machine.defaultCapacity else capacity }
  | .reconnect policy => { s with reconnect := policy }
  | .retry policy => { s with retry := policy }

/-- The number that digits form, if it stays below a bound and there are digits. -/
def digitsBelow? (bound : Nat) (cs : List Char) : Option Nat :=
  if cs.isEmpty then none
  else
    cs.foldl (fun acc c => do
      let n ← acc
      let d ← Timestamp.digitValue? c
      if n * 10 + d < bound then some (n * 10 + d) else none) (some 0)

/-- A number below a bound: digits after an optional plus, with blanks around. -/
def numberBelow? (bound : Nat) (text : String) : Option Nat :=
  match Text.trim text.toList with
  | '+' :: rest => digitsBelow? bound rest
  | cs => digitsBelow? bound cs

/-- The names of the variables. -/
def variableName (name : String) : String := "FLOWSYNC_" ++ name

/-- The settings of an environment. -/
def ofEnvironment (env : String → Option String) : Settings :=
  let number := fun (name : String) (bound : Nat) =>
    (env (variableName name)).bind (numberBelow? bound)
  let s : Settings := {}
  let s := match env (variableName "WS_URL") with
    | some url => { s with socketUrl := url }
    | none => s
  let s := match env (variableName "HTTP_URL") with
    | some url => { s with httpUrl := some url }
    | none => s
  let s := match number "CONNECT_TIMEOUT_MS" Word.bound64 with
    | some millis => { s with connectTimeout := .ofMillis millis }
    | none => s
  let s := match number "HEARTBEAT_SECS" Word.bound64 with
    | some seconds => { s with heartbeat := if 0 < seconds then some (.ofSecs seconds) else none }
    | none => s
  match number "MAX_RECONNECT_ATTEMPTS" Word.bound32 with
  | some attempts => { s with reconnect := { s.reconnect with maxAttempts := some attempts } }
  | none => s

end Settings

end RemoteRun
