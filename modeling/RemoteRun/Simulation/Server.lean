import RemoteRun.Connection.Socket
import RemoteRun.Http.Address
import RemoteRun.Http.Exchange

/-!
# Scripted servers

Servers at the other end of a call or a socket.

**Input.** What a server does with the one request it gets: it does not exist, hangs up,
says nothing, or answers as the script says.
-/

namespace RemoteRun
namespace Simulation

/-- A server for one call.  Without an address of its own the call goes to the path
`/api/run` of the server. -/
structure CallServer where
  address : Option String := none
  refuses : Bool := false
  hangsUp : Bool := false
  silent : Bool := false
  status : Nat := 200
  chunks : List (List UInt8) := []
  breaksOff : Bool := false

namespace CallServer

/-- The path of a server. -/
def path : String := "/api/run"

/-- The error of a body that breaks off. -/
def brokenBody : CallError := .request "error decoding response body"

/-- The body that a server sends. -/
def body (s : CallServer) : List BodyChunk :=
  s.chunks.map .ok ++ if s.breaksOff then [.error brokenBody] else []

/-- What comes back.  Nobody answers at another address. -/
def reply (s : CallServer) : Http.Reply :=
  match s.address with
  | some address => if Http.Address.isCallable address then .unreachable else .badAddress
  | none =>
      if s.refuses || s.hangsUp then .unreachable
      else if s.silent then .silence
      else .response s.status s.body

/-- The post that a server receives. -/
def received? (s : CallServer) (m : Outbound) : Option Http.Post :=
  if s.address.isSome || s.refuses || s.silent then none else some (.ofMessage path m)

end CallServer

/-- A server for one socket.  Nobody accepts at another address. -/
structure SocketServer where
  address : Option String := none
  refuses : Bool := false
  silent : Bool := false
  sends : List SocketMessage := []
  properly : Bool := true

namespace SocketServer

/-- How a server answers the wish for a line. -/
def answer (s : SocketServer) : SocketAnswer :=
  if s.address.isSome || s.refuses then .refuses
  else if s.silent then .silent
  else .accepts

/-- What a client receives, or why there is no line. -/
def exchange (s : SocketServer) (limit : Duration) :
    Except TransportError (List (Except TransportError String)) :=
  match s.answer.opening limit with
  | .error e => .error e
  | .ok () => .ok (SocketMessage.stream s.sends s.properly)

end SocketServer

end Simulation
end RemoteRun
