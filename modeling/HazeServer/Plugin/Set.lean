import HazeServer.Session.Basic
import HazeServer.Session.Validation

/-! # Sets of plugins

The plugins of a server, by key. Besides those of the library there may be plugins from outside. They
are registered once, in order; a plugin that fails to register ends the registration, which may then
be tried again. Refreshing asks every diagnostics plugin to do its work anew: a validator pushes the
diagnostics of all open documents. The pushes happen later, and a newer one for a document takes the
place of one that is still pending.
-/

namespace HazeServer

/-- What a plugin from outside does when it is called: it may not care, or fail. -/
inductive Reaction where
  | none
  | done
  | fails (fault : Fault)
  deriving Repr

/-- What is known of a plugin from outside. -/
structure PluginInfo where
  name : String
  description : String
  onRegister : Reaction

/-- A plugin. -/
inductive Plugin where
  | keywords
  | validator (rule : Rule)
  | completion (info : PluginInfo) (accepts : CompletionRequest → Except Fault Bool)
      (complete : CompletionRequest → Except Fault (List CompletionItem))
      (resolve : CompletionItem → Except Fault (Option CompletionItem))
  | diagnostic (info : PluginInfo) (accepts : String → Except Fault Bool)
      (diagnose : String → Except Fault (List Diagnostic)) (onRefresh : Reaction)
  | other (info : PluginInfo)

/-- What plugins can be selected by. -/
inductive PluginKind where
  | completion
  | diagnostic
  | any
  deriving DecidableEq, Repr

namespace Plugin

/-- The name of a plugin. -/
def name : Plugin → String
  | .keywords => keywordPlugin.name
  | .validator _ => Session.validatorName
  | .completion info .. => info.name
  | .diagnostic info .. => info.name
  | .other info => info.name

/-- The description of a plugin. -/
def description : Plugin → String
  | .keywords => "Suggest Haze keywords and resolve their syntax documentation"
  | .validator rule => rule.description
  | .completion info .. => info.description
  | .diagnostic info .. => info.description
  | .other info => info.description

/-- Whether a plugin is of a kind. -/
def isOf (kind : PluginKind) : Plugin → Bool
  | .keywords => kind != .diagnostic
  | .completion .. => kind != .diagnostic
  | .validator _ => kind != .completion
  | .diagnostic .. => kind != .completion
  | .other _ => kind == .any

/-- The completion plugin that a plugin is. -/
def completion? : Plugin → Option CompletionPlugin
  | .keywords => some keywordPlugin
  | .completion info accepts complete resolve =>
      some { name := info.name, accepts, complete, resolve }
  | _ => Option.none

/-- What a plugin does when it is registered. -/
def onRegister : Plugin → Reaction
  | .keywords => .none
  | .validator _ => .none
  | .completion info .. => info.onRegister
  | .diagnostic info .. => info.onRegister
  | .other info => info.onRegister

end Plugin

/-- A push to come: the key of a validator, and the URI of a document. -/
structure PendingPush where
  key : String
  uri : String
  deriving DecidableEq, Repr

/-- The plugins by key, and the part of a server that they work on. -/
structure PluginSet where
  plugins : Table Plugin
  pending : List PendingPush := []
  registered : Bool := false
  hooks : Hooks := {}
  store : Store := {}
  client : Option ClientSupport := none

namespace PluginSet

/-- The plugins that a server has by default. -/
def standard : Table Plugin :=
  .ofList [("keyword_completion", .keywords), ("diagnostics", .validator .null)]

/-- The plugins of a kind, in order. -/
def ofKind (set : PluginSet) (kind : PluginKind) : List Plugin :=
  set.plugins.values.filter (·.isOf kind)

/-- The outcome of validating the document of a URI with default settings. -/
def validate (set : PluginSet) (rule : Rule) (document : Document) :
    Except Fault (List Diagnostic) :=
  (rule.validate (showsRelated set.client) Settings.default.problemLimit document).result

/-- The diagnostics plugin that a plugin is. -/
def diagnostic? (set : PluginSet) : Plugin → Option DiagnosticPlugin
  | .validator rule =>
      some
        { name := Session.validatorName
          accepts := fun _ => .ok true
          diagnose := fun uri =>
            match set.store.get? uri with
            | some document => set.validate rule document
            | none => .ok [] }
  | .diagnostic info accepts diagnose _ => some { name := info.name, accepts, diagnose }
  | _ => none

/-- Register plugins from a list until one fails. -/
def registerFrom (set : PluginSet) : List Plugin → Option Fault × List Effect × PluginSet
  | [] => (none, [], { set with registered := true })
  | plugin :: rest =>
      let set := match plugin with
        | .validator _ => { set with hooks := set.hooks.withValidator }
        | _ => set
      match plugin.onRegister with
      | .fails fault => (some fault, [], set)
      | .none => set.registerFrom rest
      | .done =>
          let (fault, effects, set) := set.registerFrom rest
          (fault, .pluginCall .register plugin.name :: effects, set)

/-- Register all plugins, unless they are registered. -/
def registerAll (set : PluginSet) : Option Fault × List Effect × PluginSet :=
  if set.registered then (none, [], set) else set.registerFrom set.plugins.values

/-- The completions of all plugins. -/
def complete (set : PluginSet) (request : CompletionRequest) :
    List CompletionItem × List Effect :=
  completeWith (set.plugins.values.filterMap Plugin.completion?) request

/-- Fill in a completion item. -/
def resolve (set : PluginSet) (item : CompletionItem) : CompletionItem × List Effect :=
  resolveWith item (set.plugins.values.filterMap Plugin.completion?)

/-- The report on a document, empty if it is not open. -/
def report (set : PluginSet) (uri : String) : List Diagnostic × List Effect :=
  if set.store.contains uri then
    reportWith (set.plugins.values.filterMap set.diagnostic?) uri
  else ([], [])

/-- What pushing the diagnostics of a document does; a publication that cannot be sent is dropped. -/
def pushed (set : PluginSet) (rule : Rule) (document : Document) : List Effect :=
  match set.validate rule document with
  | .error fault => [Session.validationFailure document.uri fault]
  | .ok diagnostics =>
      let publication : Publication :=
        { uri := document.uri, version := document.version, diagnostics }
      if publication.fault?.isNone then [.publish publication] else []

/-- Add a push to those to come, in place of the one for its validator and document. -/
def schedule (set : PluginSet) (push : PendingPush) : PluginSet :=
  { set with pending := set.pending.filter (· ≠ push) ++ [push] }

/-- Refresh a plugin: what happens at once, and the set with the pushes to come. -/
def refreshed (set : PluginSet) (key : String) : Plugin → List Effect × PluginSet
  | .validator _ =>
      (if set.client.any (·.refresh) then [.askRefresh] else [],
        set.store.uris.foldl (fun set uri => set.schedule ⟨key, uri⟩) set)
  | .diagnostic info _ _ onRefresh =>
      match onRefresh with
      | .none => ([], set)
      | .done => ([.pluginCall .refresh info.name], set)
      | .fails fault => ([Session.refreshFailure info.name fault], set)
  | _ => ([], set)

/-- Refresh all diagnostics plugins. -/
def refresh (set : PluginSet) : List Effect × PluginSet :=
  set.plugins.entries.foldl
    (fun (effects, set) (key, plugin) =>
      let (more, set) := set.refreshed key plugin
      (effects ++ more, set))
    ([], set)

/-- What a push to come does. -/
def pushEffects (set : PluginSet) (push : PendingPush) : List Effect :=
  match set.plugins.get? push.key, set.store.get? push.uri with
  | some (.validator rule), some document => set.pushed rule document
  | _, _ => []

/-- Let the pushes to come happen, in order. -/
def settle (set : PluginSet) : List Effect × PluginSet :=
  (set.pending.flatMap set.pushEffects, { set with pending := [] })

/-- Open a document in the store of a set. -/
def opened (set : PluginSet) (uri text : String) (version language : Json) :
    Except Fault PluginSet := do
  return { set with store := ← set.store.opened uri text version language }

end PluginSet

end HazeServer
