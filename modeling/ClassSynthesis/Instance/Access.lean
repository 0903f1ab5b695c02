import ClassSynthesis.Instance.Construction

/-!
# Reading and writing members

Properties are read and written through the accessors of the class that declares them, fields
directly. Reading leaves an instance as it is. A value for a property is checked against the type of
the property before its setter runs.
-/

namespace ClassSynthesis

namespace Instance

/-- The getter of a property, with the class that declares it. -/
def getter? (i : Instance) (name : String) : Option (Class × Method) := do
  let (owner, p) ← i.cls.property? name
  let getter ← owner.method? (← p.getter)
  pure (owner, getter)

/-- Run an accessor as code of the class that declares it. -/
def runAccessor (owner : Class) (accessor : Method) (access : Access) (arguments : List Value) :
    Effect (Option Value) :=
  execute owner.ancestors
    ⟨methodContext owner.name accessor.name, access, arguments⟩ accessor.code

/-- Read a property. -/
def get (i : Instance) (name : String) : Except Error Value :=
  match i.getter? name with
  | none => .error (i.unknownMember name)
  | some (owner, getter) =>
    ((runAccessor owner getter .shared []).outcome i).map fun result => result.getD .null

/-- A property with its setter and the class that declares both. -/
def setter? (i : Instance) (name : String) : Option (Class × Property × Method) := do
  let (owner, p) ← i.cls.property? name
  let setter ← owner.method? (← p.setter)
  pure (owner, p, setter)

/-- Write a property. -/
def set (name : String) (value : Value) : Effect Unit := fun i =>
  match i.setter? name with
  | none => .error (i.unknownMember name) i
  | some (owner, p, setter) =>
    if p.ty.accepts value then
      (runAccessor owner setter .exclusive [value]).ignored i
    else .error (.typeMismatch name p.ty.name value.typeName) i

/-- Read a field. -/
def field (i : Instance) (name : String) : Except Error Value :=
  match i.cls.field? name with
  | none => .error (i.unknownMember name)
  | some f => .ok ((i.slot? f.slot).getD .null)

/-- Write a property that has a setter, or a public field that is not read-only. -/
def setMember (name : String) (value : Value) : Effect Unit := fun i =>
  match i.cls.writable? name with
  | some (.property _) => set name value i
  | some (.field f) => store f.slot value i
  | none => .error (i.unknownMember name) i

end Instance

end ClassSynthesis
