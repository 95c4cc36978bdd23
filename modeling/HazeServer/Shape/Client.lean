import HazeServer.Shape.Basic

/-! # The shape of client capabilities

The capabilities that a client tells in the handshake, by section. Nearly all of them are optional
truth values.
-/

namespace HazeServer

namespace Shape

/-- A section whose members are truth values. -/
def flagsOnly (names : List String) : Shape := .record (flags names)

/-- A section of truth values for a feature that can be registered later, and of other members. -/
def feature (names : List String) (fields : List Field) : Shape :=
  .record (flags ("dynamicRegistration" :: names) ++ fields)

/-- The members that can be filled in on demand. -/
def resolvable : Shape := .record [needed "properties" (.list .text)]

/-- The values that a client knows, which it has to list. -/
def knownValues (value : Shape) : Shape := .record [needed "valueSet" (.list value)]

/-- The values that a client knows, which it may list. -/
def listedValues (value : Shape) : Shape := .record [field "valueSet" (.list value)]

/-- The kinds of symbols that a client knows, and their tags. -/
def symbolValues : List Field := [
  field "symbolKind" (listedValues (upTo 26)),
  field "tagSupport" (knownValues (upTo 1))]

/-- What a client supports of changes to the workspace. -/
def workspaceEdit : Shape :=
  .record (flags ["documentChanges", "normalizesLineEndings", "metadataSupport",
      "snippetEditSupport"]
    ++ [
      field "resourceOperations" (.list (oneOf ["create", "rename", "delete"])),
      field "failureHandling"
        (oneOf ["abort", "transactional", "textOnlyTransactional", "undo"]),
      field "changeAnnotationSupport" (flagsOnly ["groupsOnLabel"])])

/-- What a client supports for the workspace. -/
def clientWorkspace : Shape :=
  let refreshed := flagsOnly ["refreshSupport"]
  .record (flags ["applyEdit", "workspaceFolders", "configuration"] ++ [
    field "workspaceEdit" workspaceEdit,
    field "didChangeConfiguration" (feature [] []),
    field "didChangeWatchedFiles" (feature ["relativePatternSupport"] []),
    field "symbol" (feature [] (symbolValues ++ [field "resolveSupport" resolvable])),
    field "executeCommand" (feature [] []),
    field "semanticTokens" refreshed,
    field "codeLens" refreshed,
    field "fileOperations" (feature ["didCreate", "willCreate", "didRename", "willRename",
      "didDelete", "willDelete"] []),
    field "inlineValue" refreshed,
    field "inlayHint" refreshed,
    field "diagnostics" refreshed,
    field "foldingRange" refreshed,
    field "textDocumentContent" (feature [] [])])

/-- What a client supports of completion items. -/
def clientCompletionItem : Shape :=
  .record (flags ["snippetSupport", "commitCharactersSupport", "deprecatedSupport",
      "preselectSupport", "insertReplaceSupport", "labelDetailsSupport"]
    ++ [
      field "documentationFormat" (.list markupKind),
      field "tagSupport" (knownValues (upTo 1)),
      field "resolveSupport" resolvable,
      field "insertTextModeSupport" (knownValues (upTo 2))])

/-- What a client supports of completion. -/
def clientCompletion : Shape :=
  feature ["contextSupport"] [
    field "completionItem" clientCompletionItem,
    field "completionItemKind" (listedValues openName),
    field "insertTextMode" (upTo 2),
    field "completionList" (.record [
      field "itemDefaults" (.list .text),
      field "applyKindSupport" .flag])]

/-- What a client supports of signature help. -/
def clientSignatures : Shape :=
  feature ["contextSupport"] [
    field "signatureInformation" (.record (
      flags ["activeParameterSupport", "noActiveParameterSupport"] ++ [
        field "documentationFormat" (.list markupKind),
        field "parameterInformation" (flagsOnly ["labelOffsetSupport"])]))]

/-- What a client supports of code actions. -/
def clientCodeActions : Shape :=
  feature ["isPreferredSupport", "disabledSupport", "dataSupport", "honorsChangeAnnotations",
      "documentationSupport"] [
    field "codeActionLiteralSupport"
      (.record [needed "codeActionKind" (knownValues openName)]),
    field "resolveSupport" resolvable,
    field "tagSupport" (knownValues (upTo 1))]

/-- What a client supports of folding. -/
def clientFolding : Shape :=
  feature ["lineFoldingOnly"] [
    field "rangeLimit" .index,
    field "foldingRangeKind" (listedValues openName),
    field "foldingRange" (flagsOnly ["collapsedText"])]

/-- What a client supports of diagnostics, whichever way it gets them. -/
def clientDiagnostics : List Field :=
  flags ["relatedInformation", "codeDescriptionSupport", "dataSupport"]
    ++ [field "tagSupport" (knownValues (upTo 2))]

/-- What a client supports of semantic tokens. -/
def clientTokens : Shape :=
  feature ["overlappingTokenSupport", "multilineTokenSupport", "serverCancelSupport",
      "augmentsSyntaxTokens"] [
    needed "requests" (.record [
      field "range" .any,
      field "full" (.orScalar (flagsOnly ["delta"]))]),
    needed "tokenTypes" (.list .text),
    needed "tokenModifiers" (.list .text),
    needed "formats" (.list (oneOf ["relative"]))]

/-- What a client supports for documents. -/
def clientDocuments : Shape :=
  let linked := feature ["linkSupport"] []
  .record [
    field "synchronization" (feature ["willSave", "willSaveWaitUntil", "didSave"] []),
    field "filters" (flagsOnly ["relativePatternSupport"]),
    field "completion" clientCompletion,
    field "hover" (feature [] [field "contentFormat" (.list markupKind)]),
    field "signatureHelp" clientSignatures,
    field "declaration" linked,
    field "definition" linked,
    field "typeDefinition" linked,
    field "implementation" linked,
    field "references" (feature [] []),
    field "documentHighlight" (feature [] []),
    field "documentSymbol"
      (feature ["hierarchicalDocumentSymbolSupport", "labelSupport"] symbolValues),
    field "codeAction" clientCodeActions,
    field "codeLens" (feature [] [field "resolveSupport" resolvable]),
    field "documentLink" (feature ["tooltipSupport"] []),
    field "colorProvider" (feature [] []),
    field "formatting" (feature [] []),
    field "rangeFormatting" (feature ["rangesSupport"] []),
    field "onTypeFormatting" (feature [] []),
    field "rename" (feature ["prepareSupport", "honorsChangeAnnotations"]
      [field "prepareSupportDefaultBehavior" (upTo 1)]),
    field "foldingRange" clientFolding,
    field "selectionRange" (feature [] []),
    field "publishDiagnostics" (.record (clientDiagnostics ++ flags ["versionSupport"])),
    field "callHierarchy" (feature [] []),
    field "semanticTokens" clientTokens,
    field "linkedEditingRange" (feature [] []),
    field "moniker" (feature [] []),
    field "typeHierarchy" (feature [] []),
    field "inlineValue" (feature [] []),
    field "inlayHint" (feature [] [field "resolveSupport" resolvable]),
    field "diagnostic" (feature ["relatedDocumentSupport"] clientDiagnostics),
    field "inlineCompletion" (feature [] [])]

/-- What a client supports of windows. -/
def clientWindow : Shape :=
  .record [
    field "workDoneProgress" .flag,
    field "showMessage" (.record [
      field "messageActionItem" (flagsOnly ["additionalPropertiesSupport"])]),
    field "showDocument" (.record [needed "support" .flag])]

/-- What a client supports in general. -/
def clientGeneral : Shape :=
  .record [
    field "staleRequestSupport" (.record [
      needed "cancel" .flag,
      needed "retryOnContentModified" (.list .text)]),
    field "regularExpressions" (.record [needed "engine" .text, field "version" .text]),
    field "markdown" (.record [
      needed "parser" .text,
      field "version" .text,
      field "allowedTags" (.list .text)]),
    field "positionEncodings" (.list .any)]

/-- The members of the capabilities of a client. -/
def clientCapabilities : List Field := [
  field "workspace" clientWorkspace,
  field "textDocument" clientDocuments,
  field "notebookDocument" (.record [
    needed "synchronization" (feature ["executionSummarySupport"] [])]),
  field "window" clientWindow,
  field "general" clientGeneral,
  field "experimental" .any]

end Shape

end HazeServer
