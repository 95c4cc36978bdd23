import HazeServer.Client
import HazeServer.Rule.Basic

/-! # Diagnostics

A diagnostic is what the client is told about a finding. Validating a document takes as many
findings as the problem limit allows and turns each into a diagnostic: warning is the severity of a
finding without one, and related places are shown only to a client that supports them.
-/

namespace HazeServer

/-- A place that a diagnostic refers to. -/
structure RelatedPlace where
  uri : String
  range : Text.Range
  message : String
  deriving DecidableEq, Repr

/-- A problem as the client is told of it. -/
structure Diagnostic where
  range : Text.Range
  message : String
  severity : Option Severity := none
  code : Json := .null
  source : Option String := none
  related : Option (List RelatedPlace) := none
  deriving DecidableEq, Repr

namespace Diagnostic

/-- The name under which the server reports problems. -/
def serverSource : String := "haze-ls"

/-- The place of a note; a note without a URI, or with an empty one, lies in the document. -/
def relatedPlace (uri : String) (note : Note) : RelatedPlace :=
  let own := note.uri.getD ""
  ⟨if own.isEmpty then uri else own, note.range, note.message⟩

/-- The related places shown for a finding. -/
def relatedPlaces (showRelated : Bool) (uri : String) (finding : Finding) :
    Option (List RelatedPlace) :=
  if showRelated && !finding.related.isEmpty then some (finding.related.map (relatedPlace uri))
  else none

/-- The diagnostic for a finding in a document. -/
def ofFinding (showRelated : Bool) (uri : String) (finding : Finding) : Diagnostic where
  range := finding.range
  message := finding.message
  severity := some (finding.severity.getD .warning)
  code := finding.code
  source := some serverSource
  related := relatedPlaces showRelated uri finding

end Diagnostic

/-- The outcome of a validation, and how many findings were taken from the rule. -/
structure Validation where
  taken : Nat
  result : Except Fault (List Diagnostic)

/-- The greatest limit that a scan can be cut at. -/
def maxScanLimit : Nat := Nat.pow 2 63 - 1

/-- Validate a document: call the rule, check the limit, and take the findings up to it. -/
def Rule.validate (rule : Rule) (showRelated : Bool) (limit : Nat) (document : Document) :
    Validation :=
  match rule.check document with
  | .error fault => ⟨0, .error fault⟩
  | .ok scan =>
      if maxScanLimit < limit then ⟨0, .error .limitTooLarge⟩
      else
        ⟨scan.taken limit,
          (scan.take limit).map (·.map (Diagnostic.ofFinding showRelated document.uri))⟩

/-- Whether related places are shown: only to a known client that supports them. -/
def showsRelated (client : Option ClientSupport) : Bool :=
  client.any (·.related)

end HazeServer
