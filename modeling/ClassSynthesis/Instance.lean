import ClassSynthesis.Class.Lookup
import ClassSynthesis.Error
import ClassSynthesis.Value

/-!
# Instances

An instance has one value for each slot of its class, at first the initial value of the slot's
type. Values go into slots only through `Instance.store`, which checks them against the type of the
slot, so whatever code runs on an instance, its slots keep to their types.
-/

namespace ClassSynthesis

/-- Something done to an instance: what it did before an error arose stays done. -/
abbrev Effect := EStateM Error Instance

namespace Instance

/-- An instance with nothing stored yet. -/
def blank (c : Class) : Instance := ⟨c, c.slots.map (·.ty.initial)⟩

/-- The value in a slot. -/
def slot? (i : Instance) (index : Nat) : Option Value := i.slots[index]?

/-- The instance is of this class or of one that derives from it. -/
def isInstanceOf (i : Instance) (c : Class) : Bool := i.cls.isSubclassOf c

/-- Why a value may not go into a slot, if it may not. -/
def checkStore (i : Instance) (index : Nat) (value : Value) : Except Error Unit :=
  match i.cls.slots[index]? with
  | none => .error (.invalidCode i.cls.name s!"slot {index} out of range")
  | some slot =>
    if slot.ty.accepts value then .ok ()
    else .error (.typeMismatch slot.name slot.ty.name value.typeName)

/-- Store a value into a slot. -/
def store (index : Nat) (value : Value) : Effect Unit := fun i =>
  match i.checkStore index value with
  | .ok () => .ok () { i with slots := i.slots.set index value }
  | .error e => .error e i

/-- The error for a member that the class lacks. -/
def unknownMember (i : Instance) (name : String) : Error := .unknownMember i.cls.name name

/-- A blank instance has a value for each slot. -/
@[simp] theorem length_slots_blank (c : Class) : (blank c).slots.length = c.slots.length := by
  simp [blank]

/-- A value goes into a slot of the layout whose type accepts it, and into no other. -/
theorem checkStore_eq_ok_iff {i : Instance} {index : Nat} {value : Value} :
    i.checkStore index value = .ok () ↔
      ∃ slot, i.cls.slots[index]? = some slot ∧ slot.ty.accepts value := by
  unfold checkStore
  split
  · simp [*]
  · split <;> simp_all

end Instance

end ClassSynthesis
