import RemoteRun.Json.Basic

/-!
# Notices

What is written to the journal for whoever operates a client: only warnings and
errors, each with a fixed text and named values.
-/

namespace RemoteRun

/-- How grave a notice is. -/
inductive Severity where
  | warning
  | error
deriving DecidableEq

/-- An entry of the journal. -/
structure Notice where
  severity : Severity
  message : String
  fields : List (String × Json)

namespace Notice

/-- A warning. -/
def warn (message : String) (fields : List (String × Json)) : Notice :=
  ⟨.warning, message, fields⟩

/-- An error. -/
def error (message : String) (fields : List (String × Json)) : Notice :=
  ⟨.error, message, fields⟩

/-- An error that an operation returned to its caller. -/
def returned (text : String) : Notice :=
  error "" [("error", .str text)]

end Notice

end RemoteRun
