import HazeServer.Shape.Basic

/-! # The shape of server capabilities

Most capabilities are a flag or an object of options. Some can be registered for a selection of
documents: such an object has an identifier, and its selector is written even if there is none.
-/

namespace HazeServer

namespace Shape

/-- A pattern for paths, which may be relative to a folder. -/
def pattern : Shape :=
  let folder := .record [needed "uri" .text, needed "name" .text]
  .orNull (.orScalar (.record [
    needed "baseUri" (.orNull (.orScalar folder)),
    needed "pattern" .text]))

/-- A selection of notebooks: by name, or by one of type, scheme and pattern, the first of which has
to have a value. -/
def notebookFilter : Shape :=
  .orText (.byMember "notebookType"
    (.record [needed "notebookType" .text, field "scheme" .text, field "pattern" pattern])
    (.byMember "scheme"
      (.record [needed "scheme" .text, field "pattern" pattern])
      (.record [needed "pattern" pattern])))

/-- A selection of documents: by name, by notebook, or by one of language, scheme and pattern, the
first of which has to have a value. -/
def documentFilter : Shape :=
  .orText (.byMember "notebook"
    (.record [needed "notebook" notebookFilter, field "language" .text])
    (.byMember "language"
      (.record [needed "language" .text, field "scheme" .text, field "pattern" pattern])
      (.byMember "scheme"
        (.record [needed "scheme" .text, field "pattern" pattern])
        (.record [needed "pattern" pattern]))))

/-- The selector of a registration. -/
def documentSelector : Field := ("documentSelector", .nullable, .list documentFilter)

/-- Whether progress is reported. -/
def workDoneProgress : Field := field "workDoneProgress" .flag

/-- An object of options. -/
def plainOptions (fields : List Field) : Shape :=
  .record (fields ++ [workDoneProgress])

/-- A capability that is a flag or an object of options. -/
def options (fields : List Field) : Shape :=
  .orScalar (plainOptions fields)

/-- Options of a capability that can be registered: an identifier makes them a registration. -/
def registrableOptions (fields : List Field) : Shape :=
  .byMember "id"
    (plainOptions (fields ++ [documentSelector, field "id" .text]))
    (plainOptions fields)

/-- A capability that is a flag or an object of options, and that can be registered. -/
def registrable (fields : List Field) : Shape :=
  .orScalar (registrableOptions fields)

/-- A capability whose registration does not keep its identifier. -/
def anonymouslyRegistrable : Shape :=
  .orScalar (.byMember "id" (plainOptions [documentSelector]) (plainOptions []))

/-- How documents are kept in step. -/
def textSync : Shape :=
  .orScalar (.record [
    field "openClose" .flag,
    field "change" (.choice [.int 0, .int 1, .int 2]),
    field "willSave" .flag,
    field "willSaveWaitUntil" .flag,
    field "save" (.orScalar (.record (flags ["includeText"])))])

/-- Which notebooks are kept in step, and which of their cells; cells alone select nothing. -/
def notebookSync : Shape :=
  let selection := .byMember "notebook"
    (.record [
      needed "notebook" notebookFilter,
      field "cells" (.list (.record [needed "language" .text]))])
    .nothing
  let fields := [needed "notebookSelector" (.list selection), field "save" .flag]
  .byMember "id" (.record (fields ++ [field "id" .text])) (.record fields)

/-- The options of completion. -/
def completion : Shape :=
  plainOptions [
    field "triggerCharacters" (.list .text),
    field "allCommitCharacters" (.list .text),
    field "resolveProvider" .flag,
    field "completionItem" (.record (flags ["labelDetailsSupport"]))]

/-- The options of code actions. -/
def codeActions : Shape :=
  options [
    field "codeActionKinds" (.list openName),
    field "documentation" (.list (.record [needed "kind" openName, needed "command" command])),
    field "resolveProvider" .flag]

/-- The options of semantic tokens. -/
def semanticTokens : Shape :=
  registrableOptions [
    needed "legend" (.record [
      needed "tokenTypes" (.list .text),
      needed "tokenModifiers" (.list .text)]),
    field "range" .any,
    field "full" (.orScalar (.record (flags ["delta"])))]

/-- The options of diagnostics. -/
def diagnostics : Shape :=
  registrableOptions [
    needed "interFileDependencies" .flag,
    needed "workspaceDiagnostics" .flag,
    field "identifier" .text]

/-- A selection of files for file operations. -/
def fileOperation : Shape :=
  .record [needed "filters" (.list (.record [
    field "scheme" .text,
    needed "pattern" (.record [
      needed "glob" .text,
      field "matches" (oneOf ["file", "folder"]),
      field "options" (.record (flags ["ignoreCase"]))])]))]

/-- The operations on files that a server is told of. -/
def fileOperations : Shape :=
  .record [
    field "didCreate" fileOperation,
    field "willCreate" fileOperation,
    field "didRename" fileOperation,
    field "willRename" fileOperation,
    field "didDelete" fileOperation,
    field "willDelete" fileOperation]

/-- The workspace section. -/
def workspace : Shape :=
  let schemes := needed "schemes" (.list .text)
  .record [
    field "workspaceFolders" (.record [field "supported" .flag, field "changeNotifications" .any]),
    field "fileOperations" fileOperations,
    field "textDocumentContent"
      (.byMember "id" (.record [schemes, field "id" .text]) (.record [schemes]))]

/-- The members of the capabilities of a server. -/
def serverCapabilities : List Field := [
  field "positionEncoding" .any,
  field "textDocumentSync" textSync,
  field "notebookDocumentSync" notebookSync,
  field "completionProvider" completion,
  field "hoverProvider" (options []),
  field "signatureHelpProvider" (plainOptions [
    field "triggerCharacters" (.list .text),
    field "retriggerCharacters" (.list .text)]),
  field "declarationProvider" (registrable []),
  field "definitionProvider" (options []),
  field "typeDefinitionProvider" (registrable []),
  field "implementationProvider" (registrable []),
  field "referencesProvider" (options []),
  field "documentHighlightProvider" (options []),
  field "documentSymbolProvider" (options [field "label" .text]),
  field "codeActionProvider" codeActions,
  field "codeLensProvider" (plainOptions [field "resolveProvider" .flag]),
  field "documentLinkProvider" (plainOptions [field "resolveProvider" .flag]),
  field "colorProvider" (registrable []),
  field "workspaceSymbolProvider" (options [field "resolveProvider" .flag]),
  field "documentFormattingProvider" (options []),
  field "documentRangeFormattingProvider" (options [field "rangesSupport" .flag]),
  field "documentOnTypeFormattingProvider" (.record [
    needed "firstTriggerCharacter" .text,
    field "moreTriggerCharacter" (.list .text)]),
  field "renameProvider" (options [field "prepareProvider" .flag]),
  field "foldingRangeProvider" (registrable []),
  field "selectionRangeProvider" (registrable []),
  field "executeCommandProvider" (plainOptions [needed "commands" (.list .text)]),
  field "callHierarchyProvider" (registrable []),
  field "linkedEditingRangeProvider" (registrable []),
  field "semanticTokensProvider" semanticTokens,
  field "monikerProvider" anonymouslyRegistrable,
  field "typeHierarchyProvider" (registrable []),
  field "inlineValueProvider" (registrable []),
  field "inlayHintProvider" (registrable [field "resolveProvider" .flag]),
  field "diagnosticProvider" diagnostics,
  field "inlineCompletionProvider" (options []),
  field "workspace" workspace,
  field "experimental" .any]

end Shape

end HazeServer
