import HazeServer.Plugin.Set

/-! # Plugins do not touch one another

A request goes to the plugins of its kind, one after the other. What they give is joined in registration
order, and one that fails has a message logged in place of items. Filling in a completion item ends with
the first plugin that answers. A plugin that fails might as well not be there: the message is all that it
leaves.
-/

namespace HazeServer

/-- What a plugin does with a request: whether it takes it, and what comes of calling it if it does. -/
structure Asked (α : Type) where
  accepts : Except Fault Bool
  call : Except Fault (List α)

/-- A plugin fails, when it is asked whether it takes the request or when it is called. -/
def Asked.Fails {α : Type} (asked : Asked α) (fault : Fault) : Prop :=
  asked.accepts = .error fault ∨ (asked.accepts = .ok true ∧ asked.call = .error fault)

/-- Two outcomes differ in one message, which only the first of them logs. -/
def DifferBy {α : Type} (message : Effect) (full less : α × List Effect) : Prop :=
  full.1 = less.1 ∧ ∃ before after, full.2 = before ++ message :: after ∧ less.2 = before ++ after

/-- What plugins give and log when they are asked in turn. A plugin that is not asked, or that declines,
adds nothing; one that gives items adds these, and one that fails adds an error message. -/
inductive Gathers {α : Type} (task : String) (ask : Plugin → Option (Asked α)) :
    List Plugin → List α → List Effect → Prop where
  | done : Gathers task ask [] [] []
  | unasked {plugin : Plugin} {rest : List Plugin} {items : List α} {logs : List Effect}
      (other : ask plugin = none) (gathered : Gathers task ask rest items logs) :
      Gathers task ask (plugin :: rest) items logs
  | declined {plugin : Plugin} {rest : List Plugin} {items : List α} {logs : List Effect}
      (call : Except Fault (List α)) (asked : ask plugin = some ⟨.ok false, call⟩)
      (gathered : Gathers task ask rest items logs) : Gathers task ask (plugin :: rest) items logs
  | gave {plugin : Plugin} {rest : List Plugin} {items : List α} {logs : List Effect} (given : List α)
      (asked : ask plugin = some ⟨.ok true, .ok given⟩) (gathered : Gathers task ask rest items logs) :
      Gathers task ask (plugin :: rest) (given ++ items) logs
  | failed {plugin : Plugin} {rest : List Plugin} {items : List α} {logs : List Effect} (one : Asked α)
      (fault : Fault) (asked : ask plugin = some one) (fails : one.Fails fault)
      (gathered : Gathers task ask rest items logs) :
      Gathers task ask (plugin :: rest) items
        (.log .error (task ++ " error in " ++ plugin.name ++ ": " ++ fault.message) :: logs)

section Attempts

variable {α : Type} (task : String) (ask : Plugin → Option (Asked α))

/-- What comes of asking plugins in turn. -/
def attempts (plugins : List Plugin) : List (String × Attempt (List α)) :=
  plugins.filterMap fun plugin =>
    (ask plugin).map fun asked => (plugin.name, .of asked.accepts asked.call)

/-- The items and the messages of plugins that are asked in turn. -/
def gathered (plugins : List Plugin) : List α × List Effect :=
  (givenItems (attempts ask plugins), failureLogs task (attempts ask plugins))

variable {task ask}

/-- Those plugins of a list that are of a kind come to the same when they are asked in turn. -/
theorem attempts_of_view (ask : Plugin → Option (Asked α)) {π : Type} {view : Plugin → Option π}
    {attempt : π → String × Attempt (List α)}
    (same : ∀ plugin, (view plugin).map attempt =
      (ask plugin).map fun asked => (plugin.name, .of asked.accepts asked.call)) (plugins : List Plugin) :
    (plugins.filterMap view).map attempt = attempts ask plugins := by
  rw [List.map_filterMap]
  exact congrArg (List.filterMap · plugins) (funext same)

private theorem Asked.Fails.attempt {asked : Asked α} {fault : Fault} (fails : asked.Fails fault) :
    Attempt.of asked.accepts asked.call = .failed fault := by
  obtain refused | ⟨accepted, broke⟩ := fails
  · simp only [Attempt.of, refused]
  · simp only [Attempt.of, accepted, broke]

private theorem gathered_append (before after : List Plugin) :
    gathered task ask (before ++ after) =
      ((gathered task ask before).1 ++ (gathered task ask after).1,
        (gathered task ask before).2 ++ (gathered task ask after).2) := by
  simp [gathered, attempts, givenItems, failureLogs]

private theorem gathered_unasked {plugin : Plugin} {rest : List Plugin} (other : ask plugin = none) :
    gathered task ask (plugin :: rest) = gathered task ask rest := by
  simp [gathered, attempts, other]

theorem gathered_asked {plugin : Plugin} {rest : List Plugin} {asked : Asked α} (one : ask plugin = some asked) :
    gathered task ask (plugin :: rest) =
      match Attempt.of asked.accepts asked.call with
      | .declined => gathered task ask rest
      | .gave given => (given ++ (gathered task ask rest).1, (gathered task ask rest).2)
      | .failed fault =>
          ((gathered task ask rest).1, pluginFailure task plugin.name fault :: (gathered task ask rest).2) := by
  cases came : Attempt.of asked.accepts asked.call <;>
    simp [gathered, attempts, givenItems, failureLogs, one, came]

theorem gathered_failed {plugin : Plugin} {rest : List Plugin} {asked : Asked α} {fault : Fault}
    (one : ask plugin = some asked) (fails : asked.Fails fault) :
    gathered task ask (plugin :: rest) =
      ((gathered task ask rest).1, pluginFailure task plugin.name fault :: (gathered task ask rest).2) := by
  rw [gathered_asked one, fails.attempt]

/-- Asking plugins in turn gathers what each of them does. -/
theorem gathers_gathered (plugins : List Plugin) :
    Gathers task ask plugins (gathered task ask plugins).1 (gathered task ask plugins).2 := by
  induction plugins with
  | nil => exact .done
  | cons plugin rest rested =>
    cases one : ask plugin with
    | none =>
      rw [gathered_unasked one]
      exact .unasked one rested
    | some asked =>
      -- it fails at once, declines, gives items, or fails when it is called
      obtain ⟨accepts, call⟩ := asked
      cases accepts with
      | error fault =>
        rw [gathered_failed one (.inl rfl)]
        exact .failed _ fault one (.inl rfl) rested
      | ok accepted =>
        cases accepted with
        | false =>
          rw [gathered_asked one]
          exact .declined call one rested
        | true =>
          cases call with
          | ok given =>
            rw [gathered_asked one]
            exact .gave given one rested
          | error fault =>
            rw [gathered_failed one (.inr ⟨rfl, rfl⟩)]
            exact .failed _ fault one (.inr ⟨rfl, rfl⟩) rested

/-- Without a plugin that fails, all is gathered as before but for its message. -/
theorem gathered_differBy {plugin : Plugin} {asked : Asked α} {fault : Fault} (one : ask plugin = some asked)
    (fails : asked.Fails fault) (before after : List Plugin) :
    DifferBy (pluginFailure task plugin.name fault) (gathered task ask (before ++ plugin :: after))
      (gathered task ask (before ++ after)) := by
  rw [gathered_append, gathered_failed one fails, gathered_append]
  exact ⟨rfl, _, _, rfl, rfl⟩

end Attempts

namespace Plugin

/-- What a plugin does with a request for completions, if it is asked. -/
def askedToComplete (request : CompletionRequest) (plugin : Plugin) : Option (Asked CompletionItem) :=
  plugin.completion?.map fun completer => ⟨completer.accepts request, completer.complete request⟩

/-- What a plugin does with an item to be filled in, if it is asked. -/
def askedToResolve (item : CompletionItem) (plugin : Plugin) :
    Option (Except Fault (Option CompletionItem)) :=
  plugin.completion?.map (·.resolve item)

/-- A plugin fills in an item. -/
def Answers (item : CompletionItem) (plugin : Plugin) (resolved : CompletionItem) : Prop :=
  plugin.askedToResolve item = some (.ok (some resolved))

/-- No plugin of a list fills in an item: each of them is not asked, does not recognise it, or fails. -/
def Silent (item : CompletionItem) (plugins : List Plugin) : Prop :=
  ∀ plugin ∈ plugins, ∀ resolved, ¬ plugin.Answers item resolved

/-- The messages for the plugins that fail at an item. -/
def resolveFailures (item : CompletionItem) (plugins : List Plugin) : List Effect :=
  plugins.filterMap fun plugin =>
    match plugin.askedToResolve item with
    | some (.error fault) => some (pluginFailure "Completion resolve" plugin.name fault)
    | _ => none

/-- How an item is filled in. -/
inductive Resolution (item : CompletionItem) (plugins : List Plugin) :
    CompletionItem × List Effect → Prop where
  /-- The first plugin that answers has the say, and only failures before it are logged. -/
  | answered (before after : List Plugin) (plugin : Plugin) (resolved : CompletionItem)
      (split : plugins = before ++ plugin :: after) (silent : Silent item before)
      (answers : plugin.Answers item resolved) :
      Resolution item plugins (resolved, resolveFailures item before)
  /-- An item that none answers for comes back as it is, with a warning after the failures. -/
  | unanswered (silent : Silent item plugins) :
      Resolution item plugins (item, resolveFailures item plugins ++ [unresolvedWarning item])

private theorem isSome_completion? (plugin : Plugin) :
    plugin.completion?.isSome = plugin.isOf .completion := by
  cases plugin <;> rfl

theorem name_of_completion? {plugin : Plugin} {completer : CompletionPlugin}
    (found : plugin.completion? = some completer) : completer.name = plugin.name := by
  cases plugin <;> cases found <;> rfl

section Resolving

variable {item : CompletionItem} {plugin : Plugin} {plugins rest before after : List Plugin}

/-- An item filled in by those plugins of a list that are for completion. -/
def resolvedBy (item : CompletionItem) (plugins : List Plugin) : CompletionItem × List Effect :=
  resolveWith item (plugins.filterMap completion?)

private theorem resolvedBy_answers {resolved : CompletionItem} (answers : plugin.Answers item resolved) :
    resolvedBy item (plugin :: rest) = (resolved, []) := by
  obtain ⟨completer, found, given⟩ := Option.map_eq_some_iff.mp answers
  simp [resolvedBy, found, resolveWith, given]

theorem resolvedBy_silent (silent : ∀ resolved, ¬ plugin.Answers item resolved) :
    resolvedBy item (plugin :: rest) =
      ((resolvedBy item rest).1, resolveFailures item [plugin] ++ (resolvedBy item rest).2) := by
  cases found : plugin.completion? with
  | none => simp [resolvedBy, resolveFailures, askedToResolve, found]
  | some completer =>
    have named := name_of_completion? found
    cases given : completer.resolve item with
    | error fault =>
      simp [resolvedBy, resolveFailures, askedToResolve, found, given, resolveWith, named]
    | ok answer =>
      cases answer with
      | none => simp [resolvedBy, resolveFailures, askedToResolve, found, given, resolveWith]
      | some resolved =>
        refine absurd ?_ (silent resolved)
        simp [Answers, askedToResolve, found, given]

/-- Plugins that do not answer leave their failures, and pass the item on. -/
theorem resolvedBy_append (silent : Silent item before) (after : List Plugin) :
    resolvedBy item (before ++ after) =
      ((resolvedBy item after).1, resolveFailures item before ++ (resolvedBy item after).2) := by
  induction before with
  | nil => rfl
  | cons plugin rest rested =>
    have own := silent plugin List.mem_cons_self
    have others : Silent item rest := fun other member => silent other (List.mem_cons_of_mem _ member)
    rw [List.cons_append, resolvedBy_silent own, rested others, ← List.append_assoc]
    exact congrArg (Prod.mk _) (congrArg (· ++ _) List.filterMap_append.symm)

/-- There is a first plugin that answers, if any does. -/
theorem silent_or_first (item : CompletionItem) (plugins : List Plugin) :
    Silent item plugins ∨ ∃ before plugin after resolved, plugins = before ++ plugin :: after ∧
      Silent item before ∧ plugin.Answers item resolved := by
  induction plugins with
  | nil => exact .inl (by simp [Silent])
  | cons plugin rest rested =>
    by_cases answers : ∃ resolved, plugin.Answers item resolved
    · obtain ⟨resolved, answers⟩ := answers
      exact .inr ⟨[], plugin, rest, resolved, rfl, by simp [Silent], answers⟩
    · have own : ∀ resolved, ¬ plugin.Answers item resolved := not_exists.mp answers
      have longer (list : List Plugin) (silent : Silent item list) : Silent item (plugin :: list) := by
        intro other member
        obtain rfl | later := List.mem_cons.mp member
        · exact own
        · exact silent other later
      obtain silent | ⟨before, first, after, resolved, rfl, silent, answers⟩ := rested
      · exact .inl (longer rest silent)
      · exact .inr ⟨plugin :: before, first, after, resolved, rfl, longer before silent, answers⟩

theorem resolvedBy_first {resolved : CompletionItem} (silent : Silent item before)
    (answers : plugin.Answers item resolved) :
    resolvedBy item (before ++ plugin :: after) = (resolved, resolveFailures item before) := by
  rw [resolvedBy_append silent, resolvedBy_answers answers, List.append_nil]

/-- An item is filled in by the first plugin that answers. -/
theorem resolution_resolvedBy (item : CompletionItem) (plugins : List Plugin) :
    Resolution item plugins (resolvedBy item plugins) := by
  obtain silent | ⟨before, plugin, after, resolved, rfl, silent, answers⟩ := silent_or_first item plugins
  · have passed := resolvedBy_append silent []
    rw [List.append_nil] at passed
    rw [passed]
    exact .unanswered silent
  · rw [resolvedBy_first silent answers]
    exact .answered before after plugin resolved rfl silent answers

/-- What stands after a plugin that answers does not matter. -/
theorem resolvedBy_unasked {resolved : CompletionItem} (answers : plugin.Answers item resolved)
    (before after others : List Plugin) :
    resolvedBy item (before ++ plugin :: others) = resolvedBy item (before ++ plugin :: after) := by
  obtain silent | ⟨early, first, late, given, rfl, silent, answered⟩ := silent_or_first item before
  · rw [resolvedBy_first silent answers, resolvedBy_first silent answers]
  · simp only [List.append_assoc, List.cons_append, resolvedBy_first silent answered]

/-- Without a plugin that fails, an item is filled in as before but for its message, which is not there
if a plugin before it answers. -/
theorem resolvedBy_differBy {fault : Fault} (fails : plugin.askedToResolve item = some (.error fault))
    (before after : List Plugin) :
    (¬ Silent item before ∧ resolvedBy item (before ++ plugin :: after) = resolvedBy item (before ++ after)) ∨
      DifferBy (pluginFailure "Completion resolve" plugin.name fault)
        (resolvedBy item (before ++ plugin :: after)) (resolvedBy item (before ++ after)) := by
  obtain silent | ⟨early, first, late, given, rfl, silent, answered⟩ := silent_or_first item before
  · right
    have own : ∀ resolved, ¬ plugin.Answers item resolved := by
      intro resolved answers
      cases fails.symm.trans answers
    have logged : resolveFailures item [plugin] = [pluginFailure "Completion resolve" plugin.name fault] := by
      simp [resolveFailures, fails]
    rw [resolvedBy_append silent, resolvedBy_append silent, resolvedBy_silent own, logged]
    exact ⟨rfl, _, _, rfl, rfl⟩
  · left
    -- an earlier plugin answers, so that this one is not called in the first place
    simp only [List.append_assoc, List.cons_append, resolvedBy_first silent answered, and_true]
    intro none
    exact none first (by simp) given answered

end Resolving

end Plugin

namespace PluginSet

/-- What a plugin of a set does with a request to report on a document, if it is asked. -/
def askedToReport (set : PluginSet) (uri : String) (plugin : Plugin) : Option (Asked Diagnostic) :=
  (set.diagnostic? plugin).map fun reporter => ⟨reporter.accepts uri, reporter.diagnose uri⟩

/-- A set without one of its plugins. -/
structure Lacks (less set : PluginSet) (plugin : Plugin) : Prop where
  plugins : ∃ before after, set.plugins.values = before ++ plugin :: after ∧
    less.plugins.values = before ++ after
  store : less.store = set.store
  client : less.client = set.client

private theorem isSome_diagnostic? (set : PluginSet) (plugin : Plugin) :
    (set.diagnostic? plugin).isSome = plugin.isOf .diagnostic := by
  cases plugin <;> rfl

private theorem name_of_diagnostic? {set : PluginSet} {plugin : Plugin} {reporter : DiagnosticPlugin}
    (found : set.diagnostic? plugin = some reporter) : reporter.name = plugin.name := by
  cases plugin <;> cases found <;> rfl

private theorem complete_eq (set : PluginSet) (request : CompletionRequest) :
    set.complete request =
      gathered "Completion" (Plugin.askedToComplete request) set.plugins.values := by
  rw [complete, completeWith, attempts_of_view (Plugin.askedToComplete request)]
  · rfl
  · intro plugin
    cases found : plugin.completion? with
    | none => simp [Plugin.askedToComplete, found]
    | some completer =>
      simp [Plugin.askedToComplete, found, CompletionPlugin.attempt, Plugin.name_of_completion? found]

theorem report_eq {set : PluginSet} {uri : String} (stored : set.store.contains uri = true) :
    set.report uri = gathered "Diagnostics" (set.askedToReport uri) set.plugins.values := by
  rw [report, if_pos stored, reportWith, attempts_of_view (set.askedToReport uri)]
  · rfl
  · intro plugin
    cases found : set.diagnostic? plugin with
    | none => simp [askedToReport, found]
    | some reporter => simp [askedToReport, found, DiagnosticPlugin.attempt, name_of_diagnostic? found]

private theorem Lacks.asksAlike {less set : PluginSet} {plugin : Plugin} (lacks : less.Lacks set plugin)
    (uri : String) :
    less.askedToReport uri = set.askedToReport uri := by
  funext other
  cases other with
  | validator rule =>
    simp only [askedToReport, diagnostic?, validate, lacks.store, lacks.client]
  | _ => rfl

/-- A plugin that fails to report leaves a message and nothing else. -/
theorem Lacks.report {less set : PluginSet} {plugin : Plugin} (lacks : less.Lacks set plugin) {uri : String}
    (stored : set.store.contains uri = true) {asked : Asked Diagnostic} {fault : Fault}
    (one : set.askedToReport uri plugin = some asked) (fails : asked.Fails fault) :
    DifferBy (pluginFailure "Diagnostics" plugin.name fault) (set.report uri) (less.report uri) := by
  obtain ⟨before, after, full, fewer⟩ := lacks.plugins
  rw [report_eq stored, report_eq (lacks.store ▸ stored), lacks.asksAlike, full, fewer]
  exact gathered_differBy one fails before after

/-- How the plugins of a set work side by side. -/
structure Isolates (set : PluginSet) : Prop where
  /-- Completion plugins, and no others, are asked for completions and to fill in items. -/
  completers : ∀ (plugin : Plugin) request item,
    (plugin.askedToComplete request).isSome = plugin.isOf .completion ∧
      (plugin.askedToResolve item).isSome = plugin.isOf .completion
  /-- Diagnostics plugins, and no others, are asked for reports. -/
  reporters : ∀ plugin uri, (set.askedToReport uri plugin).isSome = plugin.isOf .diagnostic
  completes : ∀ request, Gathers "Completion" (Plugin.askedToComplete request) set.plugins.values
    (set.complete request).1 (set.complete request).2
  reports : ∀ uri, set.store.contains uri = true →
    Gathers "Diagnostics" (set.askedToReport uri) set.plugins.values (set.report uri).1 (set.report uri).2
  resolves : ∀ item, Plugin.Resolution item set.plugins.values (set.resolve item)
  /-- Plugins after one that answers are not called: whatever stands there, the outcome is the same. -/
  stops : ∀ item before plugin after resolved, set.plugins.values = before ++ plugin :: after →
    plugin.Answers item resolved → ∀ (other : PluginSet) (others : List Plugin),
      other.plugins.values = before ++ plugin :: others → other.resolve item = set.resolve item
  /-- A plugin that fails at completing leaves a message and nothing else. -/
  failsToComplete : ∀ (less : PluginSet) plugin, less.Lacks set plugin → ∀ request asked fault,
    plugin.askedToComplete request = some asked → asked.Fails fault →
      DifferBy (pluginFailure "Completion" plugin.name fault) (set.complete request) (less.complete request)
  failsToReport : ∀ (less : PluginSet) plugin, less.Lacks set plugin → ∀ uri,
    set.store.contains uri = true → ∀ asked fault, set.askedToReport uri plugin = some asked →
      asked.Fails fault →
        DifferBy (pluginFailure "Diagnostics" plugin.name fault) (set.report uri) (less.report uri)
  /-- At filling in, the message is not there either if the plugin was not called. -/
  failsToResolve : ∀ (less : PluginSet) plugin, less.Lacks set plugin → ∀ item fault,
    plugin.askedToResolve item = some (.error fault) → set.resolve item = less.resolve item ∨
      DifferBy (pluginFailure "Completion resolve" plugin.name fault) (set.resolve item) (less.resolve item)

/-- Whatever the plugins of a set do with a request, they do not touch one another. -/
theorem plugins_isolated (set : PluginSet) : set.Isolates := by
  constructor
  · intro plugin request item
    simp [Plugin.askedToComplete, Plugin.askedToResolve, Plugin.isSome_completion?]
  · intro plugin uri
    rw [askedToReport, Option.isSome_map, isSome_diagnostic?]
  · intro request
    rw [complete_eq]
    exact gathers_gathered set.plugins.values
  · intro uri stored
    rw [report_eq stored]
    exact gathers_gathered set.plugins.values
  · exact fun item => Plugin.resolution_resolvedBy item set.plugins.values
  · intro item before plugin after resolved full answers other others changed
    change Plugin.resolvedBy item other.plugins.values = Plugin.resolvedBy item set.plugins.values
    rw [full, changed]
    exact Plugin.resolvedBy_unasked answers before after others
  · intro less plugin lacks request asked fault one fails
    obtain ⟨before, after, full, fewer⟩ := lacks.plugins
    rw [complete_eq, complete_eq, full, fewer]
    exact gathered_differBy one fails before after
  · exact fun less plugin lacks uri stored asked fault one fails => lacks.report stored one fails
  · intro less plugin lacks item fault fails
    obtain ⟨before, after, full, fewer⟩ := lacks.plugins
    change Plugin.resolvedBy item set.plugins.values = Plugin.resolvedBy item less.plugins.values ∨
      DifferBy _ (Plugin.resolvedBy item set.plugins.values) (Plugin.resolvedBy item less.plugins.values)
    rw [full, fewer]
    exact (Plugin.resolvedBy_differBy fails before after).imp_left And.right

end PluginSet

end HazeServer
