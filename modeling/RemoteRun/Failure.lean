import RemoteRun.Inbound.Decode
import RemoteRun.Time.Duration

/-!
# Failures

What can go wrong, one type for each part of the client.

**Results.** Every failure has a text, a code under which it is known and, for some,
advice.  `Failure` joins the kinds that a caller can meet; it adds nothing to the
text, code and advice of the one it holds.  Network failures and timeouts of a call
are transient: calling again may help.
-/

namespace RemoteRun

/-- A failure of the line to the engine. -/
inductive TransportError where
  | timeout (after : Duration)
  | closed
  | socket (text : String)
  | other (text : String)
deriving DecidableEq

/-- A failure of the connection that is kept up over such lines. -/
inductive ConnectionError where
  | notConnected (kind : String)
  | waitTimeout (limit : Duration)
  | closed
  | encode (text : String)
deriving DecidableEq

/-- A failure of a call that asks for an execution and streams the answer. -/
inductive CallError where
  | network (text : String)
  | timeout
  | status (number : Nat) (body : String)
  | request (text : String)
  | aborted
deriving DecidableEq

/-- A failure of those who supply or load diagrams. -/
inductive DiagramError where
  | snapshot (text : String)
  | load (text : String)
deriving DecidableEq

/-- A failure of a handler of messages. -/
structure HandlerError where
  text : String
deriving DecidableEq

/-- The name under which codes are filed. -/
def codeRoot : String := "flowsync::"

namespace TransportError

/-- The text of a failure. -/
def message : TransportError → String
  | .timeout after => "transport open timed out after " ++ after.text
  | .closed => "transport closed by peer"
  | .socket text => "websocket error: " ++ text
  | .other text => "transport failure: " ++ text

/-- The code of a failure. -/
def code : TransportError → String
  | .timeout _ => codeRoot ++ "transport::timeout"
  | .closed => codeRoot ++ "transport::closed"
  | .socket _ => codeRoot ++ "transport::websocket"
  | .other _ => codeRoot ++ "transport::other"

end TransportError

namespace ConnectionError

/-- The text of a failure. -/
def message : ConnectionError → String
  | .notConnected kind => "not connected; message of type `" ++ kind ++ "` dropped"
  | .waitTimeout limit => "connection not established within " ++ limit.text
  | .closed => "connection manager closed"
  | .encode text => "outbound message could not be encoded: " ++ text

/-- The code of a failure. -/
def code : ConnectionError → String
  | .notConnected _ => codeRoot ++ "connection::not_connected"
  | .waitTimeout _ => codeRoot ++ "connection::wait_timeout"
  | .closed => codeRoot ++ "connection::closed"
  | .encode _ => codeRoot ++ "connection::encode"

/-- The advice on a failure. -/
def help? : ConnectionError → Option String
  | .notConnected _ =>
      some "Await `wait_for_connection` before sending messages that must be delivered."
  | _ => none

end ConnectionError

namespace ProtocolError

/-- The code of a failure. -/
def code : ProtocolError → String
  | .json _ => codeRoot ++ "protocol::json"
  | .missingType => codeRoot ++ "protocol::missing_type"
  | .malformed _ _ => codeRoot ++ "protocol::malformed"
  | .unexpected _ => codeRoot ++ "protocol::unexpected"

end ProtocolError

namespace CallError

/-- Whether calling again may help. -/
def isTransient : CallError → Bool
  | .network _ | .timeout => true
  | .status _ _ | .request _ | .aborted => false

/-- The text of a failure. -/
def message : CallError → String
  | .network text => "network error: " ++ text
  | .timeout => "call timed out"
  | .status number body =>
      "engine answered with HTTP status " ++ String.ofList (Decimal.digits number) ++ ": " ++ body
  | .request text => "request failed: " ++ text
  | .aborted => "call aborted by user"

/-- The code of a failure. -/
def code : CallError → String
  | .network _ => codeRoot ++ "call::network"
  | .timeout => codeRoot ++ "call::timeout"
  | .status _ _ => codeRoot ++ "call::status"
  | .request _ => codeRoot ++ "call::request"
  | .aborted => codeRoot ++ "call::aborted"

/-- The advice on a failure. -/
def help? : CallError → Option String
  | .request _ => some "Check the configured HTTP endpoint."
  | _ => none

end CallError

namespace DiagramError

/-- The text of a failure. -/
def message : DiagramError → String
  | .snapshot text => "diagram snapshot unavailable: " ++ text
  | .load text => "diagram could not be loaded: " ++ text

/-- The code of a failure. -/
def code : DiagramError → String
  | .snapshot _ => codeRoot ++ "diagram::snapshot"
  | .load _ => codeRoot ++ "diagram::load"

end DiagramError

namespace HandlerError

/-- The text of a failure. -/
def message (e : HandlerError) : String := "handler failed: " ++ e.text

/-- The code of a failure. -/
def code (_ : HandlerError) : String := codeRoot ++ "router::handler"

/-- A handler that could not use its message. -/
def ofProtocol (e : ProtocolError) : HandlerError := ⟨e.message⟩

end HandlerError

/-- A failure that a caller can meet. -/
inductive Failure where
  | transport (e : TransportError)
  | connection (e : ConnectionError)
  | protocol (e : ProtocolError)
  | call (e : CallError)
  | diagram (e : DiagramError)

namespace Failure

/-- The text of a failure. -/
def message : Failure → String
  | .transport e => e.message
  | .connection e => e.message
  | .protocol e => e.message
  | .call e => e.message
  | .diagram e => e.message

/-- The code of a failure. -/
def code : Failure → String
  | .transport e => e.code
  | .connection e => e.code
  | .protocol e => e.code
  | .call e => e.code
  | .diagram e => e.code

/-- The advice on a failure. -/
def help? : Failure → Option String
  | .connection e => e.help?
  | .call e => e.help?
  | _ => none

end Failure

end RemoteRun
