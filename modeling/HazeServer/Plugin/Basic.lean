import HazeServer.Completion
import HazeServer.Effect

/-! # Plugins

Several plugins may answer one request. What they give is joined in registration order; a plugin
that fails is logged and left out, and touches no other.
-/

namespace HazeServer

/-- What came of asking a plugin. -/
inductive Attempt (α : Type) where
  | declined
  | gave (value : α)
  | failed (fault : Fault)
  deriving Repr

/-- Ask a plugin whether it accepts a request, and call it if it does. -/
def Attempt.of {α : Type} (accepts : Except Fault Bool) (call : Except Fault α) : Attempt α :=
  match accepts with
  | .error fault => .failed fault
  | .ok false => .declined
  | .ok true =>
      match call with
      | .ok value => .gave value
      | .error fault => .failed fault

/-- The log message for a plugin that failed at a task. -/
def pluginFailure (task name : String) (fault : Fault) : Effect :=
  .log .error (task ++ " error in " ++ name ++ ": " ++ fault.message)

/-- The items of all plugins that gave some, in order. -/
def givenItems {α : Type} (attempts : List (String × Attempt (List α))) : List α :=
  attempts.flatMap fun attempt =>
    match attempt.2 with
    | .gave items => items
    | _ => []

/-- The log messages of all plugins that failed, in order. -/
def failureLogs {α : Type} (task : String) (attempts : List (String × Attempt α)) : List Effect :=
  attempts.filterMap fun attempt =>
    match attempt.2 with
    | .failed fault => some (pluginFailure task attempt.1 fault)
    | _ => none

/-- A request for completions. -/
structure CompletionRequest where
  uri : String
  position : Text.Position
  deriving DecidableEq, Repr

/-- A plugin for completion: whether it accepts a request, what it offers, and how it fills in an
item it recognises. -/
structure CompletionPlugin where
  name : String
  accepts : CompletionRequest → Except Fault Bool
  complete : CompletionRequest → Except Fault (List CompletionItem)
  resolve : CompletionItem → Except Fault (Option CompletionItem)

/-- A plugin for diagnostics: whether it accepts a document, and what it finds in it. -/
structure DiagnosticPlugin where
  name : String
  accepts : String → Except Fault Bool
  diagnose : String → Except Fault (List Diagnostic)

/-- What comes of asking a plugin for completions. -/
def CompletionPlugin.attempt (request : CompletionRequest) (plugin : CompletionPlugin) :
    String × Attempt (List CompletionItem) :=
  (plugin.name, .of (plugin.accepts request) (plugin.complete request))

/-- What comes of asking a plugin for diagnostics. -/
def DiagnosticPlugin.attempt (uri : String) (plugin : DiagnosticPlugin) :
    String × Attempt (List Diagnostic) :=
  (plugin.name, .of (plugin.accepts uri) (plugin.diagnose uri))

/-- The plugin that offers the keyword catalogue, wherever it is asked for. -/
def keywordPlugin : CompletionPlugin where
  name := "keyword_completion"
  accepts := fun _ => .ok true
  complete := fun _ => .ok keywordItems
  resolve := fun item => .ok (resolveKeyword item)

/-- The items of all completion plugins, and the failures. -/
def completeWith (plugins : List CompletionPlugin) (request : CompletionRequest) :
    List CompletionItem × List Effect :=
  let attempts := plugins.map (·.attempt request)
  (givenItems attempts, failureLogs "Completion" attempts)

/-- The report of all diagnostics plugins on an open document, and the failures. -/
def reportWith (plugins : List DiagnosticPlugin) (uri : String) : List Diagnostic × List Effect :=
  let attempts := plugins.map (·.attempt uri)
  (givenItems attempts, failureLogs "Diagnostics" attempts)

/-- The warning for an item that no plugin recognises. -/
def unresolvedWarning (item : CompletionItem) : Effect :=
  .log .warning ("No completion detail for " ++ Text.quoted item.label
    ++ " (data=" ++ item.data.literal ++ ")")

/-- Fill in an item: the first plugin that recognises it answers, and an item that none recognises
comes back as it is. -/
def resolveWith (item : CompletionItem) : List CompletionPlugin → CompletionItem × List Effect
  | [] => (item, [unresolvedWarning item])
  | plugin :: rest =>
      match plugin.resolve item with
      | .ok (some resolved) => (resolved, [])
      | .ok none => resolveWith item rest
      | .error fault =>
          let (answer, effects) := resolveWith item rest
          (answer, pluginFailure "Completion resolve" plugin.name fault :: effects)

end HazeServer
