import HazeServer.Plugin.Set
import HazeServer.Session.Run
import Mathlib.Data.List.Nodup

/-! # Completing and filling in

The catalogue has one entry for each kind of token, under numbers and labels of their own. So every item
that completion offers can be filled in when it comes back, by its number alone, and an item with any
other data comes back as it went.
-/

namespace HazeServer

section Catalogue

theorem numbers_nodup : (catalog.map (·.kind.number)).Nodup := by decide

private theorem labels_nodup : (catalog.map (·.label)).Nodup := by decide

theorem exists_entry (kind : TokenKind) : ∃ entry ∈ catalog, entry.kind = kind := by
  have listed : catalog.any (·.kind = kind) = true := by cases kind <;> rfl
  simpa using listed

theorem number_of_found {number : Int} {entry : CatalogEntry}
    (found : catalogEntry? number = some entry) : (entry.kind.number : Int) = number := by
  simpa using List.find?_some found

private theorem catalogEntry?_of_mem {entry : CatalogEntry} (member : entry ∈ catalog) :
    catalogEntry? entry.kind.number = some entry := by
  cases found : catalogEntry? entry.kind.number with
  | none =>
    have other := List.find?_eq_none.mp found entry member
    simp at other
  | some first =>
    have same : first.kind.number = entry.kind.number := Int.ofNat.inj (number_of_found found)
    rw [List.inj_on_of_nodup_map numbers_nodup (List.mem_of_find?_eq_some found) member same]

private theorem catalogLookup_of_mem {entry : CatalogEntry} (member : entry ∈ catalog) :
    catalogLookup (.int entry.kind.number) = .ok entry := by
  simp only [catalogLookup, catalogEntry?_of_mem member]

private theorem catalogLookup_of_other {key : Json} (other : ∀ kind : TokenKind, key ≠ .int kind.number) :
    catalogLookup key = .error (.unknownKey key) := by
  cases key with
  | int number =>
    cases found : catalogEntry? number with
    | none => simp only [catalogLookup, found]
    | some entry =>
      have named := number_of_found found
      exact absurd (congrArg Json.int named.symm) (other entry.kind)
  | _ => rfl

end Catalogue

/-- What a client can rely on that asks for completions and sends items back to be filled in. -/
structure FillsIn (complete : CompletionRequest → List CompletionItem × List Effect)
    (resolve : CompletionItem → CompletionItem × List Effect) : Prop where
  offered : ∀ request, ∀ item ∈ (complete request).1, ∃ entry ∈ catalog,
    item.label = entry.label ∧ item.data = .int entry.kind.number ∧
      resolve item =
        ({ item with detail := some item.label, documentation := some (.text entry.documentation) }, [])
  whole : ∀ request (kind : TokenKind), ∃ item ∈ (complete request).1, item.data = .int kind.number
  keys : ∀ request, ((complete request).1.map (·.data)).Nodup
  labels : ∀ request, ((complete request).1.map (·.label)).Nodup
  /-- The number of a kind decides, whatever else the item has. -/
  known : ∀ (item : CompletionItem) (kind : TokenKind), item.data = .int kind.number →
    ∃ entry ∈ catalog, entry.kind = kind ∧
      resolve item =
        ({ item with detail := some entry.label, documentation := some (.text entry.documentation) }, [])
  unknown : ∀ item : CompletionItem, (∀ kind : TokenKind, item.data ≠ .int kind.number) →
    resolve item =
      (item, [.log .warning ("No completion detail for " ++ Text.quoted item.label
        ++ " (data=" ++ item.data.literal ++ ")")])
  twice : ∀ item, resolve (resolve item).1 = resolve item

section Keywords

theorem resolveWith_keywords_of_mem {item : CompletionItem} {entry : CatalogEntry} (member : entry ∈ catalog)
    (given : item.data = .int entry.kind.number) :
    resolveWith item [keywordPlugin] = (item.filledIn entry, []) := by
  simp only [resolveWith, keywordPlugin, resolveKeyword, given, catalogLookup_of_mem member]

theorem resolveWith_keywords_of_other {item : CompletionItem}
    (other : ∀ kind : TokenKind, item.data ≠ .int kind.number) :
    resolveWith item [keywordPlugin] = (item, [unresolvedWarning item]) := by
  simp only [resolveWith, keywordPlugin, resolveKeyword, catalogLookup_of_other other]

private theorem resolveWith_keywords_twice (item : CompletionItem) :
    resolveWith (resolveWith item [keywordPlugin]).1 [keywordPlugin] = resolveWith item [keywordPlugin] := by
  by_cases named : ∃ kind : TokenKind, item.data = .int kind.number
  · obtain ⟨kind, given⟩ := named
    obtain ⟨entry, member, rfl⟩ := exists_entry kind
    have again : (item.filledIn entry).data = .int entry.kind.number := given
    rw [resolveWith_keywords_of_mem member given, resolveWith_keywords_of_mem member again]
    rfl
  · rw [resolveWith_keywords_of_other fun kind given => named ⟨kind, given⟩]
    exact resolveWith_keywords_of_other fun kind given => named ⟨kind, given⟩

theorem completeWith_keywords (request : CompletionRequest) :
    completeWith [keywordPlugin] request = (keywordItems, []) := by
  have items : keywordItems ++ [] = keywordItems := List.append_nil _
  exact congrArg (·, []) items

private theorem fillsIn_keywords :
    FillsIn (completeWith [keywordPlugin]) (resolveWith · [keywordPlugin]) where
  offered request item offered := by
    rw [completeWith_keywords] at offered
    obtain ⟨entry, member, rfl⟩ := List.mem_map.mp offered
    exact ⟨entry, member, rfl, rfl, resolveWith_keywords_of_mem member rfl⟩
  whole request kind := by
    obtain ⟨entry, member, rfl⟩ := exists_entry kind
    rw [completeWith_keywords]
    exact ⟨.ofEntry entry, List.mem_map_of_mem member, rfl⟩
  keys request := by
    rw [completeWith_keywords, keywordItems, List.map_map]
    have apart : Function.Injective fun number : Nat => Json.int number :=
      fun first second same => Int.ofNat.inj (Json.int.inj same)
    have numbers := numbers_nodup.map apart
    rwa [List.map_map] at numbers
  labels request := by
    rw [completeWith_keywords, keywordItems, List.map_map]
    exact labels_nodup
  known item kind given := by
    obtain ⟨entry, member, rfl⟩ := exists_entry kind
    exact ⟨entry, member, rfl, resolveWith_keywords_of_mem member given⟩
  unknown item other := resolveWith_keywords_of_other other
  twice := resolveWith_keywords_twice

end Keywords

private theorem completion?_standard :
    PluginSet.standard.values.filterMap Plugin.completion? = [keywordPlugin] := rfl

/-- The standard plugins fill in what they offer and nothing else, and a session answers as they do. -/
theorem completion_round_trip (set : PluginSet) (standard : set.plugins = PluginSet.standard)
    (session : Session) (served : session.hasPlugins = true) :
    FillsIn set.complete set.resolve ∧
      (∀ request, session.handle (.complete request) = (.items (set.complete request).1, session)) ∧
      ∀ item, session.handle (.resolve item) =
        (.item (set.resolve item).1, session.emitAll (set.resolve item).2) := by
  have complete : set.complete = completeWith [keywordPlugin] := by
    funext request
    rw [PluginSet.complete, standard, completion?_standard]
  have resolve : set.resolve = (resolveWith · [keywordPlugin]) := by
    funext item
    rw [PluginSet.resolve, standard, completion?_standard]
  have plugins : session.completionPlugins = [keywordPlugin] := if_pos served
  rw [complete, resolve]
  refine ⟨fillsIn_keywords, ?_, ?_⟩
  · intro request
    simp only [Session.handle, Session.complete, plugins, completeWith_keywords, Session.emitAll, List.append_nil]
  · intro item
    simp only [Session.handle, Session.resolve, served, ↓reduceIte, plugins]

/-- An item with a foreign label and the number of a directive is filled in as the directive. -/
theorem foreignItem_filledIn :
    PluginSet.resolve { plugins := PluginSet.standard } { label := "loop", data := .int 16 } =
        ({ label := "loop", data := .int 16, detail := some ".hook", documentation := some (.text ".hook") },
          []) ∧
      FillsIn (PluginSet.complete { plugins := PluginSet.standard })
        (PluginSet.resolve { plugins := PluginSet.standard }) :=
  ⟨rfl, (completion_round_trip { plugins := PluginSet.standard } rfl (.fresh .null true) rfl).1⟩

end HazeServer
