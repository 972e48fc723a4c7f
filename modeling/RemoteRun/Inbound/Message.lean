import RemoteRun.Json.Reader

/-!
# Lifted messages

A frame lifted just far enough to be routed by its `type`.

**Input.** A JSON object with a non-empty string under `type`.  Some engines nest
the fields under `data`.

**Algorithm.** A nested object is taken apart and its members move to the top
level, in key order, unless a member is there whose key has the same snake case
spelling.  Members that stood at the top level therefore win.

**Results.** Every frame of either shape becomes one flat object with its kind.
-/

namespace RemoteRun

/-- A frame with its kind and its flattened members. -/
structure Message where
  kind : String
  members : Entries Json

namespace Message

/-- A key character in snake case: an ASCII capital becomes an underscore and the
small letter. -/
def snakeChar (c : Char) : List Char :=
  if 'A' ≤ c ∧ c ≤ 'Z' then ['_', Char.ofNat (c.toNat + 32)] else [c]

/-- A key in snake case. -/
def snakeCase (key : String) : String :=
  String.ofList (key.toList.flatMap snakeChar)

/-- Whether a key of the members has the snake case spelling `canonical`. -/
def spells (members : Entries Json) (canonical : String) : Bool :=
  members.any fun e => snakeCase e.1 == canonical

/-- Insert a member unless a spelling of its key is there. -/
def addMissing (target : Entries Json) (entry : String × Json) : Entries Json :=
  if spells target (snakeCase entry.1) then target else target.insert entry.1 entry.2

/-- Insert the members whose keys are missing in every spelling. -/
def mergeMissing (target source : Entries Json) : Entries Json :=
  source.foldl addMissing target

/-- Move the members of a nested `data` object to the top; drop any other
`data`. -/
def flatten (members : Entries Json) : Entries Json :=
  match members.get? "data" with
  | some (.obj nested) => mergeMissing (members.erase "data") nested
  | some _ => members.erase "data"
  | none => members

/-- The kind of an object with a non-empty string under `type`. -/
def kindOf? (members : Entries Json) : Option String :=
  match members.get? "type" with
  | some (.str kind) => if kind.isEmpty then none else some kind
  | _ => none

/-- Lift a value; nothing unless it is an object with a kind. -/
def lift? : Json → Option Message
  | .obj members => (kindOf? members).map fun kind => ⟨kind, flatten members⟩
  | _ => none

/-- The flattened object. -/
def payload (m : Message) : Json :=
  .obj m.members

/-- The node a message names, under either spelling. -/
def nodeId? (m : Message) : Option String :=
  match m.members.get? "node_id" with
  | some value => value.string?
  | none => (m.members.get? "nodeId").bind Json.string?

end Message

end RemoteRun
