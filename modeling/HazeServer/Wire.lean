import HazeServer.Effect
import HazeServer.Plugin.Basic

/-! # Protocol messages in JSON

The JSON of what the server sends. Members without a value are left out.
-/

namespace HazeServer

/-- The JSON of a position. -/
def Text.Position.toJson (position : Text.Position) : Json :=
  .object [("line", .int position.line), ("character", .int position.character)]

/-- The JSON of a range. -/
def Text.Range.toJson (range : Text.Range) : Json :=
  .object [("start", range.start.toJson), ("end", range.stop.toJson)]

/-- The JSON of a related place. -/
def RelatedPlace.toJson (place : RelatedPlace) : Json :=
  .object [
    ("location", .object [("uri", .text place.uri), ("range", place.range.toJson)]),
    ("message", .text place.message)]

/-- The JSON of a diagnostic. -/
def Diagnostic.toJson (diagnostic : Diagnostic) : Json :=
  .object ([("range", diagnostic.range.toJson), ("message", .text diagnostic.message)]
    ++ Json.optional "severity"
      (diagnostic.severity.map fun severity => .int severity.number)
    ++ Json.unlessNull "code" diagnostic.code
    ++ Json.optional "source" (diagnostic.source.map .text)
    ++ Json.optional "relatedInformation"
      (diagnostic.related.map fun places => .list (places.map RelatedPlace.toJson)))

/-- The JSON of a list of diagnostics. -/
def diagnosticsJson (diagnostics : List Diagnostic) : Json :=
  .list (diagnostics.map Diagnostic.toJson)

/-- The JSON of a full report. -/
def reportJson (items : List Diagnostic) : Json :=
  .object [("kind", .text "full"), ("items", diagnosticsJson items)]

/-- The JSON of pushed diagnostics. -/
def Publication.toJson (publication : Publication) : Json :=
  .object ([("uri", .text publication.uri)]
    ++ Json.unlessNull "version" publication.version
    ++ [("diagnostics", diagnosticsJson publication.diagnostics)])

/-- The JSON of a list of completion items, which is always complete. -/
def completionJson (items : List CompletionItem) : Json :=
  .object [("isIncomplete", .bool false), ("items", .list (items.map CompletionItem.toJson))]

/-- The JSON of a request for the settings of a document. -/
def settingsRequestJson (uri : String) : Json :=
  .object [("items", .list [
    .object [("scopeUri", .text uri), ("section", .text Settings.sectionName)]])]

/-- The name of the server. -/
def serverName : String := "haze-ls"

/-- The version of the server. -/
def serverVersion : String := "1.0.0"

/-- The JSON of the answer to a handshake. -/
def handshakeJson (capabilities : Json) : Json :=
  .object [("capabilities", capabilities),
    ("serverInfo",
      .object [("name", .text serverName), ("version", .text serverVersion)])]

/-- The JSON of a document. -/
def Document.toJson (document : Document) : Json :=
  .object [("uri", .text document.uri),
    ("version", document.version),
    ("languageId", document.language),
    ("text", .text document.text)]

end HazeServer
