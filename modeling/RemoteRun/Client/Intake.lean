import RemoteRun.Client.Basic

/-!
# Streams of calls

The frames that follow an accepted call come one after the other.  Each call has a
forwarder, which appends them to the queue of the client as they come, beside the
connection and the forwarders of other calls.

**Input.** Turns of requests and of forwarders, in any order.

**Algorithm.** A request whose call is accepted opens a stream.  The forwarder of a
stream takes its next item: a frame joins the queue of the client, and an error is noted
and ends the stream.

**Results.** `Client.turnRequest` is the case in which a forwarder takes all that there
is at once.
-/

namespace RemoteRun

/-- The stream of an accepted call: what is still to come, and the number of frames that
were forwarded. -/
structure CallStream where
  rest : CallFrames
  forwarded : Nat := 0

namespace CallStream

/-- The frame that the forwarder takes next. -/
def next? (s : CallStream) : Option String :=
  match s.rest with
  | .ok text :: _ => some text
  | _ => none

/-- What is noted of a stream that fails. -/
def failureNotice (e : CallError) (forwarded : Nat) : Notice :=
  .warn "execute call stream failed"
    [("error", .str e.message), ("forwarded", .ofNat forwarded)]

end CallStream

/-- A client and the streams that are forwarded to it, in the order in which their calls
were accepted. -/
structure Intake (υ α : Type) where
  client : Client υ α
  streams : List CallStream := []

namespace Intake

variable {υ α : Type}

/-- Take over what a request asks of the client; the frames of a call are left to a
forwarder. -/
def takeOver (i : Intake υ α) : RequestEffect → Intake υ α
  | .note notice => { i with client := i.client.noteAll [notice] }
  | .forward frames => { i with streams := i.streams ++ [⟨frames, 0⟩] }
  | .call _ | .rest _ => i

/-- A turn of a request. -/
def turnRequest (i : Intake υ α) (id : Nat) (o : RequestObservation) : Intake υ α :=
  let (desk, effects) := i.client.desk.turn Connection.send i.client.delivery id o
  effects.foldl takeOver { i with client := (i.client.setDesk desk).collect }

/-- A turn of the forwarder of a call. -/
def forward (i : Intake υ α) (call : Nat) : Intake υ α :=
  match i.streams[call]? with
  | none => i
  | some s =>
      match s.rest with
      | [] => i
      | .ok text :: rest =>
          { client := { i.client with frames := i.client.frames ++ [text] }
            streams := i.streams.set call ⟨rest, s.forwarded + 1⟩ }
      | .error e :: _ =>
          { client := i.client.noteAll [CallStream.failureNotice e s.forwarded]
            streams := i.streams.set call ⟨[], s.forwarded⟩ }

/-- Some turns of the forwarder of a call, one after the other. -/
def forwardAll (i : Intake υ α) (call : Nat) : Nat → Intake υ α
  | 0 => i
  | turns + 1 => (i.forward call).forwardAll call turns

end Intake

end RemoteRun
