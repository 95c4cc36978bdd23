import HazeServer.Proofs.ProblemLimit
import Mathlib.Data.Rat.Floor

/-! # Settings are read field by field

A client asks for a problem limit with a number and for a trace level with its name. Each field is read
on its own: what is missing, malformed or unknown costs at most the field it stands in. The limit is
exact for numbers of any size, since a double is taken at its value and not at its decimal digits.
-/

namespace HazeServer

/-- The number that a double is, if it is one. -/
def Double.amount? (double : Double) : Option ℚ :=
  match double.value with
  | .finite negative mantissa exponent => some ((if negative then -1 else 1) * (mantissa * 2 ^ exponent))
  | .infinite _ => none
  | .notNumber => none

/-- The number that a value is, if it is one. A truth value is none. -/
def Json.amount? : Json → Option ℚ
  | .int number => some number
  | .double number => number.amount?
  | _ => none

/-- A value asks for a problem limit: the whole part of a number that is not negative. -/
def AsksForLimit (json : Json) (limit : Nat) : Prop :=
  ∃ value amount, json.member? Settings.limitMember = some value ∧ value.amount? = some amount ∧
    0 ≤ amount ∧ limit = ⌊amount⌋₊

/-- What a value has for a trace level. -/
def tracePart (json : Json) : Option Json :=
  (json.member? "trace").bind (Json.member? "server")

/-- A value asks for a trace level, by its name. -/
def AsksForTrace (json : Json) (level : TraceLevel) : Prop :=
  tracePart json = some (.text level.name)

/-- Settings are what a value asks for, with the default in a field that it asks nothing for. -/
structure TakenFrom (json : Json) (settings : Settings) : Prop where
  limit : ∀ limit, AsksForLimit json limit → settings.problemLimit = limit
  noLimit : (∀ limit, ¬ AsksForLimit json limit) → settings.problemLimit = 100
  trace : ∀ level, AsksForTrace json level → settings.trace = level
  noTrace : (∀ level, ¬ AsksForTrace json level) → settings.trace = .off
  named : settings.trace.name ∈ ["off", "messages", "verbose"]

/-- What comes of reading settings from a value. -/
structure ReadByField (json : Json) : Prop where
  /-- A limit that is infinite or not a number is the one thing that cannot be read. -/
  fails : ∀ fault, Settings.ofJson json = .error fault ↔ Unlimited json fault
  reads : (∀ fault, ¬ Unlimited json fault) →
    ∃ settings, Settings.ofJson json = .ok settings ∧ TakenFrom json settings
  limitApart : ∀ other : Json, other.member? Settings.limitMember = json.member? Settings.limitMember →
    (Settings.ofJson other).map (·.problemLimit) = (Settings.ofJson json).map (·.problemLimit)
  traceApart : ∀ (other : Json) (settings others : Settings), tracePart other = tracePart json →
    Settings.ofJson json = .ok settings → Settings.ofJson other = .ok others → others.trace = settings.trace
  /-- Members that are in neither field do not count. -/
  unknown : ∀ other : Json, other.member? Settings.limitMember = json.member? Settings.limitMember →
    tracePart other = tracePart json → Settings.ofJson other = Settings.ofJson json

namespace Double

private theorem wholePart_eq_floor (mantissa : Nat) (exponent : Int) :
    wholePart mantissa exponent = ⌊(mantissa * 2 ^ exponent : ℚ)⌋₊ := by
  have nonnegative : (0 : ℚ) ≤ mantissa * 2 ^ exponent := by positivity
  apply eq_of_forall_le_iff
  intro bound
  rw [le_wholePart, Nat.le_floor_iff nonnegative]

end Double

namespace Settings

section Limit

private theorem limitOfDouble_of_amount {double : Double} {amount : ℚ} (is : double.amount? = some amount) :
    limitOfDouble double = .ok (if 0 ≤ amount then ⌊amount⌋₊ else default.problemLimit) := by
  unfold Double.amount? at is
  unfold limitOfDouble
  split at is
  · next negative mantissa exponent value =>
    obtain rfl := Option.some.inj is
    have nonnegative : (0 : ℚ) ≤ mantissa * 2 ^ exponent := by positivity
    simp only [value]
    cases negative with
    | false => simp [nonnegative, Double.wholePart_eq_floor]
    | true =>
      by_cases zero : mantissa = 0
      · simp [zero, Double.wholePart]
      · have positive : (0 : ℚ) < mantissa * 2 ^ exponent := by positivity
        simp [zero, not_le.mpr positive]
  · cases is
  · cases is

theorem limitOf_of_amount {value : Json} {amount : ℚ} (is : value.amount? = some amount) :
    limitOf (some value) = .ok (if 0 ≤ amount then ⌊amount⌋₊ else default.problemLimit) := by
  cases value with
  | int number =>
    obtain rfl := Option.some.inj is
    by_cases below : number < 0
    · simp [limitOf, below, not_le.mpr below]
    · obtain ⟨count, rfl⟩ := Int.eq_ofNat_of_zero_le (not_lt.mp below)
      simp [limitOf]
  | double double => exact limitOfDouble_of_amount is
  | _ => cases is

private theorem limitOfDouble_of_no_amount {double : Double} {limit : Nat} (isNone : double.amount? = none)
    (read : limitOfDouble double = .ok limit) : limit = default.problemLimit := by
  unfold Double.amount? at isNone
  unfold limitOfDouble at read
  split at isNone
  · cases isNone
  · next negative value =>
    simp only [value] at read
    split at read
    · exact (Except.ok.inj read).symm
    · cases read
  · next value =>
    simp only [value] at read
    cases read

private theorem limitOf_of_no_amount {value : Json} {limit : Nat} (isNone : value.amount? = none)
    (read : limitOf (some value) = .ok limit) : limit = default.problemLimit := by
  cases value with
  | int number => cases isNone
  | double double => exact limitOfDouble_of_no_amount isNone read
  | _ => exact (Except.ok.inj read).symm

/-- The limit depends on its own member only, also where it cannot be read. -/
theorem ofJson_map_problemLimit (json : Json) :
    (ofJson json).map (·.problemLimit) = limitOf (json.member? limitMember) := by
  unfold ofJson
  cases limitOf (json.member? limitMember) <;> rfl

private theorem problemLimit_of_asks {json : Json} {settings : Settings} (read : ofJson json = .ok settings)
    {limit : Nat} (asks : AsksForLimit json limit) : settings.problemLimit = limit := by
  obtain ⟨value, amount, given, is, nonnegative, rfl⟩ := asks
  have limited := limit_of_ofJson read
  rw [given, limitOf_of_amount is, if_pos nonnegative] at limited
  exact (Except.ok.inj limited).symm

private theorem problemLimit_of_silent {json : Json} {settings : Settings} (read : ofJson json = .ok settings)
    (silent : ∀ limit, ¬ AsksForLimit json limit) : settings.problemLimit = default.problemLimit := by
  have limited := limit_of_ofJson read
  cases given : json.member? limitMember with
  | none =>
    rw [given] at limited
    exact (Except.ok.inj limited).symm
  | some value =>
    rw [given] at limited
    cases is : value.amount? with
    | none => exact limitOf_of_no_amount is limited
    | some amount =>
      have negative : ¬ 0 ≤ amount := fun nonnegative =>
        silent _ ⟨value, amount, given, is, nonnegative, rfl⟩
      rw [limitOf_of_amount is, if_neg negative] at limited
      exact (Except.ok.inj limited).symm

end Limit

section Trace

private theorem ofName?_name (level : TraceLevel) : TraceLevel.ofName? level.name = some level := by
  cases level <;> rfl

private theorem name_of_ofName? {name : String} {level : TraceLevel}
    (named : TraceLevel.ofName? name = some level) :
    level.name = name := by
  simpa using List.find?_some named

theorem trace_of_ofJson {json : Json} {settings : Settings} (read : ofJson json = .ok settings) :
    settings.trace = traceOf (json.member? "trace") := by
  unfold ofJson at read
  cases limited : limitOf (json.member? limitMember) with
  | error fault =>
    rw [limited] at read
    cases read
  | ok limit =>
    rw [limited] at read
    cases read
    rfl

theorem traceOf_of_asks {json : Json} {level : TraceLevel} (asks : AsksForTrace json level) :
    traceOf (json.member? "trace") = level := by
  unfold AsksForTrace tracePart at asks
  simp only [traceOf, asks, ofName?_name, Option.getD_some]

private theorem traceOf_of_silent {json : Json} (silent : ∀ level, ¬ AsksForTrace json level) :
    traceOf (json.member? "trace") = default.trace := by
  unfold traceOf
  split
  · next name given =>
    cases named : TraceLevel.ofName? name with
    | none => rfl
    | some level =>
      refine absurd ?_ (silent level)
      rw [AsksForTrace, tracePart, given, name_of_ofName? named]
  · rfl

theorem traceOf_congr {json other : Json} (same : tracePart other = tracePart json) :
    traceOf (other.member? "trace") = traceOf (json.member? "trace") := by
  unfold tracePart at same
  simp only [traceOf, same]

end Trace

private theorem takenFrom_of_ofJson {json : Json} {settings : Settings} (read : ofJson json = .ok settings) :
    TakenFrom json settings where
  limit _ asks := problemLimit_of_asks read asks
  noLimit silent := problemLimit_of_silent read silent
  trace _ asks := (trace_of_ofJson read).trans (traceOf_of_asks asks)
  noTrace silent := (trace_of_ofJson read).trans (traceOf_of_silent silent)
  named := by cases settings.trace <;> simp [TraceLevel.name]

private theorem ofJson_toJson (settings : Settings) : ofJson settings.toJson = .ok settings := by
  have limit : limitOf (settings.toJson.member? limitMember) = .ok settings.problemLimit := by
    have given : settings.toJson.member? limitMember = some (.int settings.problemLimit) := rfl
    have is : (Json.int settings.problemLimit).amount? = some (settings.problemLimit : ℚ) := by
      simp [Json.amount?]
    rw [given, limitOf_of_amount is, if_pos (Nat.cast_nonneg _), Nat.floor_natCast]
  have trace : traceOf (settings.toJson.member? "trace") = settings.trace := traceOf_of_asks rfl
  simp only [ofJson, limit, trace]
  rfl

private theorem ofJson_congr {json other : Json}
    (limit : other.member? limitMember = json.member? limitMember)
    (trace : tracePart other = tracePart json) : ofJson other = ofJson json := by
  simp only [ofJson, limit, traceOf_congr trace]

/-- A value is read field by field, and settings as a client writes them are read as they are. -/
theorem read_field_by_field :
    (∀ json, ReadByField json) ∧ ∀ settings : Settings, ofJson settings.toJson = .ok settings := by
  refine ⟨fun json => ⟨fun fault => ofJson_eq_error, ?_, ?_, ?_, ?_⟩, ?_⟩
  · intro limited
    cases read : ofJson json with
    | error fault => exact absurd (ofJson_eq_error.mp read) (limited fault)
    | ok settings => exact ⟨settings, rfl, takenFrom_of_ofJson read⟩
  · intro other same
    rw [ofJson_map_problemLimit, ofJson_map_problemLimit, same]
  · intro other settings others same read readOther
    rw [trace_of_ofJson readOther, trace_of_ofJson read, traceOf_congr same]
  · exact fun other limit trace => ofJson_congr limit trace
  · exact ofJson_toJson

-- `1e23` is a little less than its digits say
example : ofJson (.object [(limitMember, .double ⟨0x44B52D02C7E14AF6⟩)]) =
    .ok ⟨99999999999999991611392, .off⟩ := rfl

end Settings

end HazeServer
