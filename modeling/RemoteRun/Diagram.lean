import RemoteRun.Json.Basic

/-!
# Diagrams

A diagram is carried as it is; only the ids of its nodes are looked at.

**Input.** The nodes stand under `nodes`, either as a list of objects with an `id`
or as an object whose keys are the ids.
-/

namespace RemoteRun
namespace Diagram

/-- The ids of the nodes, in the order in which they are declared. -/
def nodeIds (diagram : Json) : List String :=
  match diagram.get? "nodes" with
  | some (.arr nodes) => nodes.filterMap fun node => (node.get? "id").bind Json.string?
  | some (.obj nodes) => Entries.keys nodes
  | _ => []

end Diagram
end RemoteRun
