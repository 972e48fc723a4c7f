import RemoteRun.Failure
import RemoteRun.Text.Utf8

/-!
# Sockets

What a socket delivers to the connection.

**Input.** The messages of the peer in order, and whether the line is closed properly
after them.

**Results.** Texts are frames, and so are bytes that encode a text; other bytes are an
error in their place.  Nothing follows the message that closes a line.
-/

namespace RemoteRun

/-- A message of the peer. -/
inductive SocketMessage where
  | text (text : String)
  | binary (bytes : List UInt8)
  | ping
  | pong
  | close

namespace SocketMessage

/-- The text that bytes encode. -/
def textOfBytes? (bytes : List UInt8) : Option String :=
  let decoded := String.ofList (Text.decodeLossy bytes)
  if decoded.toUTF8.toList = bytes then some decoded else none

/-- The error of bytes that encode no text. -/
def notText : TransportError := .socket "UTF-8 encoding error"

/-- The error of a line that breaks off. -/
def brokenOff : TransportError :=
  .socket "Connection reset without closing handshake"

/-- What a message delivers, if anything. -/
def delivered? : SocketMessage → Option (Except TransportError String)
  | .text frame => some (.ok frame)
  | .binary bytes =>
      match textOfBytes? bytes with
      | some frame => some (.ok frame)
      | none => some (.error notText)
  | .ping | .pong | .close => none

/-- The messages up to the one that closes the line, and whether there is one. -/
def untilClose : List SocketMessage → List SocketMessage × Bool
  | [] => ([], false)
  | .close :: _ => ([], true)
  | m :: ms =>
      let (before, closed) := untilClose ms
      (m :: before, closed)

/-- What a socket delivers, up to its end. -/
def stream (ms : List SocketMessage) (properly : Bool) : List (Except TransportError String) :=
  let (before, closed) := untilClose ms
  before.filterMap delivered? ++ if closed || properly then [] else [.error brokenOff]

end SocketMessage

/-- How a peer answers the wish to open a line. -/
inductive SocketAnswer where
  | accepts
  | refuses
  | silent

namespace SocketAnswer

/-- What the wish to open a line comes to within a limit. -/
def opening (a : SocketAnswer) (limit : Duration) : Except TransportError Unit :=
  match a with
  | .accepts => .ok ()
  | .refuses => .error (.socket "connection refused")
  | .silent => .error (.timeout limit)

end SocketAnswer

end RemoteRun
