import ClassSynthesis.Instance.Access

/-!
# Applying attributes

An application of an attribute names a class, arguments for one of its constructors and values for
some of its members. Resolving it checks all of this at once, in a fixed order, and gives the
attribute that is then attached to a type, a property or a parameter. An attribute can be made into
an instance at any later time.
-/

namespace ClassSynthesis

/-- An attribute as it is asked for. -/
structure Application where
  /-- The class of the attribute. -/
  kind : Class
  /-- The arguments for a constructor. -/
  arguments : List Value
  /-- Members to be written after construction, if any are given. -/
  overrides : Option (List (String × Value))

namespace Application

/-- The overrides, none if none are given. -/
def overrideList (a : Application) : List (String × Value) := a.overrides.getD []

/-- The number of the first constructor that matches the arguments exactly. -/
def target? (a : Application) : Option Nat :=
  a.kind.constructors.findIdx? (·.matchesExactly a.arguments)

/-- Names in the overrides that are no writable members of the class, in order. -/
def unknownNames (a : Application) : List String :=
  (a.overrideList.filter fun (name, _) => (a.kind.writable? name).isNone).map (·.1)

/-- Why a value may not override a member, if it may not. -/
def checkOverride (kind : Class) (name : String) (value : Value) : Except Error Unit :=
  match kind.writable? name with
  | none => .error (.unknownMember kind.name name)
  | some member =>
    if member.ty.accepts value then .ok ()
    else .error (.typeMismatch name member.ty.name value.typeName)

/-- Check overrides one after the other, up to the first that does not fit. -/
def checkOverrides (kind : Class) : List (String × Value) → Except Error Unit
  | [] => .ok ()
  | (name, value) :: rest =>
    match checkOverride kind name value with
    | .ok () => checkOverrides kind rest
    | .error e => .error e

/--
Check an application: the class must be an attribute class and visible from everywhere, a
constructor must match the arguments exactly, all overrides must name writable members, and their
values must fit. The first check that fails decides the error.
-/
def resolve (a : Application) : Except Error Attribute :=
  if !a.kind.isAttribute then .error (.notAttribute a.kind.name)
  else if !a.kind.isExternal then .error (.hiddenAttribute a.kind.name "kind")
  else
    match a.target? with
    | none =>
      .error (.noConstructor a.kind.name (a.arguments.map (·.typeName)) "ctor_args")
    | some target =>
      if a.unknownNames.isEmpty then
        match checkOverrides a.kind a.overrideList with
        | .ok () => .ok ⟨a.kind, target, a.arguments, a.overrideList⟩
        | .error e => .error e
      else .error (.unknownOverrides a.kind.name a.unknownNames "overrides")

/-- Overrides pass if each of them does. -/
theorem checkOverrides_eq_ok_iff {kind : Class} {overrides : List (String × Value)} :
    checkOverrides kind overrides = .ok () ↔
      ∀ name value, (name, value) ∈ overrides → checkOverride kind name value = .ok () := by
  induction overrides with
  | nil => simp [checkOverrides]
  | cons first rest ih =>
    obtain ⟨name, value⟩ := first
    cases hfirst : checkOverride kind name value with
    | ok passed =>
      simp only [checkOverrides, hfirst, ih, List.mem_cons, Prod.mk.injEq]
      constructor
      · rintro hrest other otherValue (⟨rfl, rfl⟩ | hmem)
        · exact hfirst
        · exact hrest other otherValue hmem
      · exact fun h other otherValue hmem => h other otherValue (.inr hmem)
    | error e =>
      simp only [checkOverrides, hfirst, reduceCtorEq, false_iff]
      intro h
      simpa [hfirst] using h name value List.mem_cons_self

/-- A resolved attribute is the application with the number of a constructor. -/
theorem resolve_eq_ok {a : Application} {made : Attribute} (h : a.resolve = .ok made) :
    ∃ target, a.target? = some target ∧
      made = ⟨a.kind, target, a.arguments, a.overrideList⟩ := by
  unfold resolve at h
  split at h
  · simp at h
  · split at h
    · simp at h
    · split at h
      · simp at h
      · next target htarget =>
        split at h
        · split at h
          · exact ⟨target, htarget, by simpa using h.symm⟩
          · simp at h
        · simp at h

end Application

/-- Write members one after the other. -/
def Instance.setMembers : List (String × Value) → Effect Unit
  | [] => fun i => .ok () i
  | (name, value) :: rest => fun i =>
    match Instance.setMember name value i with
    | .ok () left => Instance.setMembers rest left
    | .error e left => .error e left

/-- Make the instance that an attribute describes. -/
def Attribute.instantiate (a : Attribute) : Except Error Instance :=
  match Instance.construct a.kind a.target a.arguments with
  | .ok made => (Instance.setMembers a.overrides).after made
  | .error e => .error e

end ClassSynthesis
