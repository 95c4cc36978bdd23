import HazeServer.Proofs.Diagnostic
import HazeServer.Proofs.Settings
import HazeServer.Rule.Uppercase
import Mathlib.Algebra.Order.Field.Power
import Mathlib.Data.Rat.Cast.Order

/-! # The problem limit

Settings ask for a limit on the number of problems, and a validation reports the first findings up to it.
A client may ask for any number, but a scan can be cut only at what fits into a machine word. Where more
is asked for the validation fails, even if there is nothing to report.
-/

namespace HazeServer

/-- A value asks for more problems than a scan can be cut at. -/
inductive Excessive (json : Json) : Prop where
  | int (number : Int) (given : json.member? Settings.limitMember = some (.int number))
      (large : 2 ^ 63 ≤ number)
  | double (double : Double) (mantissa : Nat) (exponent : Int)
      (given : json.member? Settings.limitMember = some (.double double))
      (value : double.value = .finite false mantissa exponent)
      (large : (2 ^ 63 : ℚ) ≤ mantissa * 2 ^ exponent)

/-- The whole part of a number reaches a whole number if the number does. -/
theorem Double.le_wholePart (bound mantissa : Nat) (exponent : Int) :
    bound ≤ wholePart mantissa exponent ↔ (bound : ℚ) ≤ mantissa * 2 ^ exponent := by
  unfold wholePart
  split
  · next fraction =>
    have positive : 0 < Nat.pow 2 exponent.natAbs := Nat.two_pow_pos _
    have power : (2 : ℚ) ^ exponent = ((Nat.pow 2 exponent.natAbs : Nat) : ℚ)⁻¹ := by
      rw [show exponent = -(exponent.natAbs : Int) by omega, zpow_neg, zpow_natCast, Int.natAbs_neg,
        Int.natAbs_natCast]
      norm_cast
    rw [Nat.le_div_iff_mul_le positive, power, ← div_eq_mul_inv, le_div_iff₀ (by exact_mod_cast positive)]
    norm_cast
  · next whole =>
    have power : (2 : ℚ) ^ exponent = ((Nat.pow 2 exponent.natAbs : Nat) : ℚ) := by
      rw [show exponent = (exponent.natAbs : Int) by omega, zpow_natCast, Int.natAbs_natCast]
      norm_cast
    rw [power]
    norm_cast

namespace Settings

theorem limit_of_ofJson {json : Json} {settings : Settings} (read : ofJson json = .ok settings) :
    limitOf (json.member? limitMember) = .ok settings.problemLimit := by
  unfold ofJson at read
  cases limited : limitOf (json.member? limitMember) with
  | error fault =>
    rw [limited] at read
    cases read
  | ok limit =>
    rw [limited] at read
    cases read
    rfl

theorem exceeds_iff {limit : Nat} : maxScanLimit < limit ↔ 2 ^ 63 ≤ limit := by
  have next : maxScanLimit + 1 = 2 ^ 63 := rfl
  omega

theorem not_exceeds_default : ¬ maxScanLimit < default.problemLimit := by decide

theorem exceeds_wholePart {mantissa : Nat} {exponent : Int} :
    maxScanLimit < Double.wholePart mantissa exponent ↔ (2 ^ 63 : ℚ) ≤ mantissa * 2 ^ exponent := by
  rw [exceeds_iff, Double.le_wholePart]
  norm_cast

private theorem limitOfDouble_exceeds {double : Double} {limit : Nat}
    (read : limitOfDouble double = .ok limit) :
    maxScanLimit < limit ↔
      ∃ mantissa exponent, double.value = .finite false mantissa exponent ∧
        (2 ^ 63 : ℚ) ≤ mantissa * 2 ^ exponent := by
  cases value : double.value with
  | notNumber =>
    simp only [limitOfDouble, value] at read
    cases read
  | infinite negative =>
    simp only [limitOfDouble, value] at read
    split at read
    · cases read
      simp [not_exceeds_default]
    · cases read
  | finite negative mantissa exponent =>
    simp only [limitOfDouble, value] at read
    split at read
    · next below =>
      cases read
      simp [not_exceeds_default, below.1]
    · next above =>
      cases read
      rw [exceeds_wholePart]
      cases negative with
      | false => simp
      | true =>
        -- the zero below zero asks for nothing
        have zero : mantissa = 0 := by simpa using above
        simp [zero]

private theorem limitOf_int_exceeds {number : Int} {limit : Nat}
    (read : limitOf (some (.int number)) = .ok limit) :
    maxScanLimit < limit ↔ 2 ^ 63 ≤ number := by
  have given : (if number < 0 then default.problemLimit else number.toNat) = limit := Except.ok.inj read
  rw [← given]
  split
  · next below =>
    simp only [not_exceeds_default, false_iff]
    omega
  · next above =>
    rw [exceeds_iff]
    omega

/-- The limit of settings is beyond a machine word exactly if the client asked for that. -/
theorem problemLimit_exceeds {json : Json} {settings : Settings} (read : ofJson json = .ok settings) :
    maxScanLimit < settings.problemLimit ↔ Excessive json := by
  have limited := limit_of_ofJson read
  constructor
  · intro large
    cases given : json.member? limitMember with
    | none =>
      rw [given] at limited
      exact absurd (Except.ok.inj limited ▸ large) not_exceeds_default
    | some value =>
      rw [given] at limited
      cases value with
      | int number => exact .int number given ((limitOf_int_exceeds limited).mp large)
      | double double =>
        obtain ⟨mantissa, exponent, value, reached⟩ := (limitOfDouble_exceeds limited).mp large
        exact .double double mantissa exponent given value reached
      | _ => exact absurd (Except.ok.inj limited ▸ large) not_exceeds_default
  · intro excessive
    cases excessive with
    | int number given large =>
      rw [given] at limited
      exact (limitOf_int_exceeds limited).mpr large
    | double double mantissa exponent given value large =>
      rw [given] at limited
      exact (limitOfDouble_exceeds limited).mpr ⟨mantissa, exponent, value, large⟩

end Settings

namespace Rule

/-- A validation reports the first findings up to the limit that the client asked for, unless that is
beyond a machine word; then it fails whatever there is to report. -/
theorem limit_kept_unless_excessive (rule : Rule) (shows : Bool) (document : Document) {scan : Scan}
    (checked : rule.check document = .ok scan) (complete : scan.failure = none) {json : Json}
    {settings : Settings} (read : Settings.ofJson json = .ok settings) :
    (¬ Excessive json → ∃ diagnostics,
        (rule.validate shows settings.problemLimit document).result = .ok diagnostics ∧
          diagnostics.length = min settings.problemLimit scan.findings.length ∧
          diagnostics = (scan.findings.take (min settings.problemLimit scan.findings.length)).map
            (Diagnostic.ofFinding shows document.uri)) ∧
      (Excessive json →
        (rule.validate shows settings.problemLimit document).result = .error .limitTooLarge) := by
  rw [← Settings.problemLimit_exceeds read]
  constructor
  · intro small
    refine ⟨_, validate_eq_ok.mpr ⟨scan, checked, Nat.not_lt.mp small, .inl complete, rfl⟩, ?_, ?_⟩
    · rw [List.length_map, List.length_take]
    · rw [← List.take_eq_take_min]
  · intro large
    simp only [validate, checked, if_pos large]

/-- Settings with the least double that is too large. -/
def unboundedSettings : Json :=
  .object [(Settings.limitMember, .double ⟨0x43E0000000000000⟩)]

/-- A word in capitals goes unreported. -/
theorem unboundedSettings_fail :
    Settings.ofJson unboundedSettings = .ok ⟨9223372036854775808, .off⟩ ∧
      Excessive unboundedSettings ∧
      (uppercase.check ⟨"file:///a.hz", .int 1, .null, "AA", .utf16⟩).map (·.findings.length) = .ok 1 ∧
      (uppercase.validate true 9223372036854775808
        ⟨"file:///a.hz", .int 1, .null, "AA", .utf16⟩).result = .error .limitTooLarge := by
  have read : Settings.ofJson unboundedSettings = .ok ⟨9223372036854775808, .off⟩ := rfl
  have excessive : Excessive unboundedSettings :=
    .double ⟨0x43E0000000000000⟩ (2 ^ 52) 11 rfl rfl (Settings.exceeds_wholePart.mp (by decide))
  refine ⟨read, excessive, rfl, ?_⟩
  exact (limit_kept_unless_excessive uppercase true ⟨"file:///a.hz", .int 1, .null, "AA", .utf16⟩ rfl rfl
    read).2 excessive

end Rule

end HazeServer
