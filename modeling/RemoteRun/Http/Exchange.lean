import RemoteRun.Http.Body

/-!
# Calls over HTTP

A request to execute as the body of a post, and what the reply means.

**Results.** A reply with a status of success is a call that was accepted, and its body
is a stream of frames.  Every other reply, and the lack of one, is a failure of the
call.
-/

namespace RemoteRun
namespace Http

/-- What is posted. -/
structure Post where
  line : String
  contentType : String
  accept : String
  body : String

/-- The post that carries a message to a path. -/
def Post.ofMessage (path : String) (m : Outbound) : Post where
  line := "POST " ++ path ++ " HTTP/1.1"
  contentType := "application/json"
  accept := "text/event-stream"
  body := m.write

/-- What comes back on a post. -/
inductive Reply where
  | badAddress
  | unreachable
  | silence
  | response (status : Nat) (body : List BodyChunk)

namespace Reply

/-- Whether a status is one of success. -/
def isSuccess (status : Nat) : Bool :=
  decide (200 ≤ status) && decide (status < 300)

/-- All bytes of a body, if none of it is an error. -/
def bytes? : List BodyChunk → Option (List UInt8)
  | [] => some []
  | .ok bytes :: chunks => (bytes? chunks).map (bytes ++ ·)
  | .error _ :: _ => none

/-- The text of a body; a body that breaks off has none. -/
def bodyText (body : List BodyChunk) : String :=
  match bytes? body with
  | some bytes => String.ofList (Text.decodeLossy bytes)
  | none => ""

/-- What a reply means for the call. -/
def outcome : Reply → Except CallError CallFrames
  | .badAddress => .error (.request "builder error")
  | .unreachable => .error (.network "error sending request")
  | .silence => .error .timeout
  | .response status body =>
      if isSuccess status then .ok (decodeBody body)
      else .error (.status status (bodyText body))

end Reply

end Http
end RemoteRun
