import HazeServer.Document.Version
import HazeServer.Document.Basic
import HazeServer.Effect

/-! # Integer versions

Versions that are integers compare as integers, a truth value counting as one. Every version that a
message can carry is an integer.
-/

namespace HazeServer

namespace Json

theorem magnitude?_of_asInt? {json : Json} {number : Int} (given : json.asInt? = some number) :
    json.magnitude? = some (.finite number 0) := by
  cases json <;> simp_all [asInt?, magnitude?]

theorem atMost_finite (low high : Int) :
    (Magnitude.finite low 0).atMost (.finite high 0) = decide (low ≤ high) := by
  change decide (low * 1 ≤ high * 1) = decide (low ≤ high)
  rw [Int.mul_one, Int.mul_one]

theorem equals_of_asInt? {first second : Json} {low high : Int} (left : first.asInt? = some low)
    (right : second.asInt? = some high) : first.equals second = decide (low = high) := by
  have numbers : first.equals second = first.equalNumbers second := by
    cases first <;> cases second <;> simp_all [asInt?, equals]
  rw [numbers, equalNumbers, magnitude?_of_asInt? left, magnitude?_of_asInt? right]
  simp only [Magnitude.equals, atMost_finite, ← Bool.decide_and]
  exact decide_eq_decide.mpr Int.le_antisymm_iff.symm

private theorem atMost_of_asInt? {first second : Json} {low high : Int} (left : first.asInt? = some low)
    (right : second.asInt? = some high) : first.atMost second = .ok (decide (low ≤ high)) := by
  have numbers : first.atMost second = first.numberAtMost second := by
    cases first <;> cases second <;> simp_all [asInt?, atMost, numberAtMost, magnitude?, atMost_finite]
  rw [numbers, numberAtMost, magnitude?_of_asInt? left, magnitude?_of_asInt? right]
  simp only [atMost_finite]

end Json

theorem asInt?_of_isSendableVersion {version : Json} (sendable : isSendableVersion version = true) :
    ∃ number, version.asInt? = some number := by
  unfold isSendableVersion at sendable
  obtain ⟨number, given, _⟩ := Option.any_eq_true _ _ |>.mp sendable
  exact ⟨number, given⟩

/-- A publication with a version that a message can carry is not refused. -/
theorem fault?_of_isSendableVersion (uri : String) {version : Json} (diagnostics : List Diagnostic)
    (sendable : isSendableVersion version = true) :
    (Publication.mk uri version diagnostics).fault? = none := by
  simp only [Publication.fault?, sendable, Bool.or_true, ↓reduceIte]

/-- A document with an integer version takes a change exactly if its version is greater. -/
theorem Document.accepts_of_asInt? {document : Document} {version : Json} {held given : Int}
    (current : document.version.asInt? = some held) (next : version.asInt? = some given) :
    document.accepts version = .ok (decide (held < given)) := by
  have present : document.version.isNull = false := by
    cases stored : document.version with
    | null =>
      rw [stored] at current
      cases current
    | _ => rfl
  unfold accepts
  rw [present, Json.atMost_of_asInt? next current]
  simp only [Bool.false_eq_true, ↓reduceIte, Except.map, Except.ok.injEq]
  rw [← decide_not, decide_eq_decide, Int.not_le]

end HazeServer
