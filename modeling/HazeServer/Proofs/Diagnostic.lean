import HazeServer.Diagnostic

/-! # What a validation gives

A validation that does not fail gives the first findings of the rule, as many as the limit allows,
each turned into a diagnostic.
-/

namespace HazeServer

theorem Scan.take_eq_ok {scan : Scan} {limit : Nat} {findings : List Finding} :
    scan.take limit = .ok findings ↔
      (scan.failure = none ∨ limit ≤ scan.findings.length) ∧ findings = scan.findings.take limit := by
  unfold take
  split
  · next short =>
    cases failing : scan.failure with
    | some fault =>
      simp only [reduceCtorEq, false_or, false_iff, not_and]
      omega
    | none =>
      rw [List.take_of_length_le (Nat.le_of_lt short)]
      simp only [Except.ok.injEq, true_or, true_and]
      exact eq_comm
  · next long =>
    simp only [Except.ok.injEq, Nat.le_of_not_lt long, or_true, true_and]
    exact eq_comm

theorem Rule.validate_eq_ok {rule : Rule} {shows : Bool} {limit : Nat} {document : Document}
    {diagnostics : List Diagnostic} :
    (rule.validate shows limit document).result = .ok diagnostics ↔
      ∃ scan, rule.check document = .ok scan ∧ limit ≤ maxScanLimit ∧
        (scan.failure = none ∨ limit ≤ scan.findings.length) ∧
        diagnostics =
          (scan.findings.take limit).map (Diagnostic.ofFinding shows document.uri) := by
  unfold validate
  cases checked : rule.check document with
  | error fault => simp
  | ok scan =>
    simp only [Except.ok.injEq, exists_eq_left']
    split
    · next large =>
      simp only [reduceCtorEq, false_iff, not_and]
      omega
    · next small =>
      cases taken : scan.take limit with
      | error fault =>
        simp only [Except.map, reduceCtorEq, false_iff, not_and]
        intro _ complete _
        have given := Scan.take_eq_ok.mpr ⟨complete, rfl⟩
        rw [taken] at given
        cases given
      | ok findings =>
        obtain ⟨complete, rfl⟩ := Scan.take_eq_ok.mp taken
        simp only [Except.map, Except.ok.injEq, Nat.le_of_not_lt small, complete, true_and]
        exact eq_comm

end HazeServer
