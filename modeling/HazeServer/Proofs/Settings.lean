import HazeServer.Settings

/-! # Settings that cannot be read

Almost everything a client can send is read as settings, with the default for what is missing or
malformed. Reading fails on a problem limit that is infinite or not a number, and on a reply to a
settings request that is neither a list nor something that counts as empty.
-/

namespace HazeServer

/-- A value asks for a problem limit that no whole number is. -/
inductive Unlimited (json : Json) : Fault → Prop where
  | infinite (double : Double) (value : double.value = .infinite false)
      (given : json.member? Settings.limitMember = some (.double double)) :
      Unlimited json .infiniteNumber
  | notNumber (double : Double) (value : double.value = .notNumber)
      (given : json.member? Settings.limitMember = some (.double double)) :
      Unlimited json .notNumber

/-- A reply that no settings can be read from. -/
inductive Unusable : Json → Fault → Prop where
  | limit (item : Json) (rest : List Json) (fault : Fault) (unlimited : Unlimited item fault) :
      Unusable (.list (item :: rest)) fault
  | object (first : String × Json) (rest : List (String × Json)) :
      Unusable (.object (first :: rest)) .noFirstItem
  | int (number : Int) (nonzero : number ≠ 0) : Unusable (.int number) (.noItems "int")
  | double (double : Double) (nonzero : double.isZero = false) :
      Unusable (.double double) (.noItems "float")
  | bool : Unusable (.bool true) (.noItems "bool")

namespace Settings

private theorem limitOfDouble_eq_error {double : Double} {fault : Fault} :
    limitOfDouble double = .error fault ↔
      (double.value = .infinite false ∧ fault = .infiniteNumber) ∨
        (double.value = .notNumber ∧ fault = .notNumber) := by
  unfold limitOfDouble
  cases double.value with
  | notNumber => simp [eq_comm]
  | infinite negative => cases negative <;> simp [eq_comm]
  | finite negative mantissa exponent =>
    simp only [reduceCtorEq, false_and, or_self, iff_false]
    split <;> simp

theorem ofJson_eq_error {json : Json} {fault : Fault} :
    ofJson json = .error fault ↔ Unlimited json fault := by
  have limit : ofJson json = .error fault ↔ limitOf (json.member? limitMember) = .error fault := by
    unfold ofJson
    cases limitOf (json.member? limitMember) <;> simp [bind, Except.bind, pure, Except.pure]
  rw [limit]
  constructor
  · intro failed
    unfold limitOf at failed
    split at failed
    · cases failed
    · next double given =>
      rcases limitOfDouble_eq_error.mp failed with ⟨value, rfl⟩ | ⟨value, rfl⟩
      · exact .infinite double value given
      · exact .notNumber double value given
    · cases failed
  · intro unlimited
    cases unlimited with
    | infinite double value given =>
      rw [given]
      exact limitOfDouble_eq_error.mpr (.inl ⟨value, rfl⟩)
    | notNumber double value given =>
      rw [given]
      exact limitOfDouble_eq_error.mpr (.inr ⟨value, rfl⟩)

private theorem ofJson_null (fault : Fault) : ofJson .null ≠ .error fault := by
  intro failed
  cases failed

theorem ofReply_eq_error {reply : Json} {fault : Fault} :
    ofReply reply = .error fault ↔ Unusable reply fault := by
  constructor
  · intro failed
    cases reply with
    | null => cases failed
    | text value => cases failed
    | bool value =>
      cases value <;> cases failed
      exact .bool
    | int number =>
      by_cases zero : number = 0
      · simp [ofReply, Json.isSet, zero, ofJson_null] at failed
      · simp only [ofReply, Json.isSet, bne_iff_ne, ne_eq, zero, not_false_eq_true, ↓reduceIte,
          Except.error.injEq] at failed
        rw [← failed]
        exact .int number zero
    | double value =>
      cases zero : value.isZero with
      | true => simp [ofReply, Json.isSet, zero, ofJson_null] at failed
      | false =>
        simp only [ofReply, Json.isSet, zero, Bool.not_false, ↓reduceIte, Except.error.injEq] at failed
        rw [← failed]
        exact .double value zero
    | list items =>
      cases items with
      | nil => cases failed
      | cons item rest => exact .limit item rest fault (ofJson_eq_error.mp failed)
    | object members =>
      cases members with
      | nil => cases failed
      | cons first rest =>
        cases failed
        exact .object first rest
  · intro unusable
    cases unusable with
    | limit item rest fault unlimited => exact ofJson_eq_error.mpr unlimited
    | object first rest => rfl
    | int number nonzero => simp [ofReply, Json.isSet, nonzero, Json.kindName]
    | double double nonzero => simp [ofReply, Json.isSet, nonzero, Json.kindName]
    | bool => rfl

end Settings

end HazeServer
