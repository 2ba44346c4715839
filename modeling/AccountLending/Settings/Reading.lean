import AccountLending.Engine
import AccountLending.Json.Reader
import AccountLending.Settings.Codec

/-!
# Reading settings

Settings come from a file, or are the built-in ones when no file is given; a file replaces them
entirely.  A text is accepted when it is the document of settings that have no fault.

* `ofDocument_eq_ok_iff`, `ofText_eq_ok_iff` — exactly what is accepted;
* `payer_eq_ok_iff` — the payers that are found.
-/

namespace AccountLending.PoolSettings

/-- The settings of a document, which must have no fault. -/
def ofDocument (document : Json) : Except PoolError PoolSettings :=
  match ofJson? document with
  | none => .error (.settings .malformed)
  | some settings =>
    match settings.fault? with
    | some fault => .error (.settings (.invalid fault))
    | none => .ok settings

/-- The settings that a text spells. -/
def ofText (text : String) : Except PoolError PoolSettings :=
  match Json.parse? text with
  | none => .error (.settings .malformed)
  | some document => ofDocument document

theorem ofDocument_eq_ok_iff (document : Json) (settings : PoolSettings) :
    ofDocument document = .ok settings ↔
      ofJson? document = some settings ∧ settings.fault? = none := by
  unfold ofDocument
  cases ofJson? document with
  | none => simp
  | some found =>
    cases hfault : found.fault? with
    | some fault =>
      simp only [hfault, reduceCtorEq, Option.some.injEq, false_iff, not_and]
      rintro rfl
      simp [hfault]
    | none =>
      simp only [hfault, Except.ok.injEq, Option.some.injEq, iff_self_and]
      rintro rfl
      exact hfault

theorem ofText_eq_ok_iff (text : String) (settings : PoolSettings) :
    ofText text = .ok settings ↔
      ∃ document, Json.parse? text = some document ∧ ofJson? document = some settings ∧
        settings.fault? = none := by
  unfold ofText
  cases Json.parse? text with
  | none => simp
  | some document => simp [ofDocument_eq_ok_iff]

/-- The settings of a file, or the built-in ones. -/
def load : Option String → Action PoolSettings
  | none => return builtIn
  | some path => do
    Action.log .debug ("Loading pool configuration from " ++ path)
    match ← Action.host (.readFile path) with
    | .error cause => throw (.settings (.unreadable path cause.message))
    | .ok text => ExceptT.mk (.done (ofText text))

/-- The payer of a name. -/
def payer (settings : PoolSettings) (name : String) : Except PoolError Payer :=
  match settings.payers.get? name with
  | some payer => .ok payer
  | none => .error (.unknownPayer name settings.payers.keys)

theorem payer_eq_ok_iff (settings : PoolSettings) (name : String) (payer : Payer) :
    settings.payer name = .ok payer ↔ settings.payers.get? name = some payer := by
  rw [PoolSettings.payer]
  cases settings.payers.get? name <;> simp

end AccountLending.PoolSettings
