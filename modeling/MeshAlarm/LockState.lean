/-!
# Legacy lock states

Some door locks report their bolt through the alarm types 17 to 25 instead of an event type.

## Main definitions

* `LockState`: the nine states
* `LockState.ofAlarmType?`: the state that an alarm type stands for
* `LockState.label`: the display name
-/

namespace MeshAlarm

/-- The states of a lock, in the order of their alarm types. -/
inductive LockState
  | keypadSecuredJammed
  | keypadSecured
  | keypadUnsecured
  | unknown
  | manuallySecured
  | manuallyUnsecured
  | controllerSecuredJammed
  | controllerSecured
  | controllerUnsecured
  deriving DecidableEq, Repr

namespace LockState

/-- Every state, in the order of their alarm types. -/
def all : List LockState :=
  [keypadSecuredJammed, keypadSecured, keypadUnsecured, unknown, manuallySecured,
   manuallyUnsecured, controllerSecuredJammed, controllerSecured, controllerUnsecured]

/-- The alarm type of the first state. -/
def firstAlarmType : Nat := 17

/-- The alarm type of the last state. -/
def lastAlarmType : Nat := 25

/-- Whether an alarm type stands for a lock state. -/
def Covers (alarmType : Int) : Prop :=
  firstAlarmType ≤ alarmType ∧ alarmType ≤ lastAlarmType

instance (alarmType : Int) : Decidable (Covers alarmType) :=
  inferInstanceAs (Decidable (_ ∧ _))

/-- The state that an alarm type stands for, if any. -/
def ofAlarmType? (alarmType : Int) : Option LockState :=
  if Covers alarmType then all[(alarmType - firstAlarmType).toNat]? else none

/-- The display name of a state. -/
def label : LockState → String
  | keypadSecuredJammed => "Secured at Keypad - Jammed"
  | keypadSecured => "Secured at Keypad - Success"
  | keypadUnsecured => "Unsecured at Keypad"
  | unknown => "Unknown"
  | manuallySecured => "Secured Manually"
  | manuallyUnsecured => "Unsecured Manually"
  | controllerSecuredJammed => "Secured by Controller - Jammed"
  | controllerSecured => "Secured by Controller"
  | controllerUnsecured => "Unsecured by Controller"

/-- The table has a state for every alarm type that stands for one. -/
theorem Covers.lt_length_all {alarmType : Int} (h : Covers alarmType) :
    (alarmType - firstAlarmType).toNat < all.length := by
  obtain ⟨h₁, h₂⟩ := h
  simp only [firstAlarmType, lastAlarmType] at h₁ h₂ ⊢
  show _ < 9
  omega

end LockState

end MeshAlarm
