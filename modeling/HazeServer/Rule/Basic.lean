import HazeServer.Document.Basic

/-! # Rules and findings

A rule inspects a document and yields findings one after the other. Calling it may fail, and so may
asking for the next finding. Whoever asks takes only as many findings as it needs.
-/

namespace HazeServer

/-- How grave a problem is. -/
inductive Severity where
  | error
  | warning
  | information
  | hint
  deriving DecidableEq, Repr

namespace Severity

/-- The number of a severity in the protocol. -/
def number : Severity → Nat
  | .error => 1
  | .warning => 2
  | .information => 3
  | .hint => 4

/-- The severity of a number. -/
def ofNumber? (number : Int) : Option Severity :=
  [error, warning, information, hint].find? fun severity => (severity.number : Int) == number

end Severity

/-- A second place that a finding refers to; without a URI it lies in the same document. -/
structure Note where
  range : Text.Range
  message : String
  uri : Option String := none
  deriving DecidableEq, Repr

/-- A problem that a rule reports. -/
structure Finding where
  range : Text.Range
  message : String
  severity : Option Severity := none
  code : Json := .null
  related : List Note := []
  deriving DecidableEq, Repr

/-- What a rule yields: findings in order, and then the end or a failure. -/
structure Scan where
  findings : List Finding := []
  failure : Option Fault := none
  deriving Repr

namespace Scan

/-- The scan of some findings that fails when it is asked for the finding of a number, and never if
it does not get so far. -/
def failingAt (findings : List Finding) (number : Nat) (fault : Fault) : Scan :=
  if number ≤ findings.length then ⟨findings.take number, some fault⟩ else ⟨findings, none⟩

/-- The number of findings taken when at most `limit` are asked for. -/
def taken (scan : Scan) (limit : Nat) : Nat :=
  min limit scan.findings.length

/-- The first `limit` findings. The failure shows only to who asks for more than there are. -/
def take (scan : Scan) (limit : Nat) : Except Fault (List Finding) :=
  if scan.findings.length < limit then
    match scan.failure with
    | some fault => .error fault
    | none => .ok scan.findings
  else .ok (scan.findings.take limit)

end Scan

/-- A rule: its name, and the findings in a document unless the call fails. -/
structure Rule where
  name : String
  check : Document → Except Fault Scan

namespace Rule

/-- The rule that finds nothing. -/
def null : Rule := ⟨"null", fun _ => .ok {}⟩

/-- The rule that yields the same scan for every document. -/
def scripted (scan : Except Fault Scan) : Rule := ⟨"scripted", fun _ => scan⟩

/-- The description of a validator with this rule. -/
def description (rule : Rule) : String :=
  "Report problems found by the " ++ rule.name ++ " rule"

end Rule

end HazeServer
