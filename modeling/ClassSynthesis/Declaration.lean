import ClassSynthesis.Application
import ClassSynthesis.Class.Layout
import ClassSynthesis.Registry

/-!
# Declared classes

Classes that exist before anything is synthesized are declared: base classes to derive from and
attribute classes to apply. A declared constructor first runs the parameterless constructor of the
parent, if the parent has constructors, and then stores some of its arguments into members. A
declaration is registered only as a whole; one that fails uses up a class number and nothing else.
-/

namespace ClassSynthesis

/-- A field to be declared. -/
structure FieldDecl where
  /-- The name of the field. -/
  name : String
  /-- Its type. -/
  ty : Ty
  /-- Whether it is open to everyone. -/
  isPublic : Bool := true
  /-- Whether only constructors may write it. -/
  isReadonly : Bool := false

/-- A property to be declared. -/
structure PropertyDecl where
  /-- The name of the property. -/
  name : String
  /-- Its type. -/
  ty : Ty
  /-- Whether it has a setter. -/
  writable : Bool := true

/-- An attribute for a constructor parameter. -/
structure ParameterAttribute where
  /-- The name of the parameter. -/
  parameter : String
  /-- The class of the attribute. -/
  kind : Class
  /-- The arguments for a constructor of that class. -/
  arguments : List Value

/-- A constructor to be declared. -/
structure ConstructorDecl where
  /-- Names and types of the parameters. -/
  parameters : List (String × Ty) := []
  /-- Parameters to be stored, each with the member that it is stored into. -/
  assignments : List (String × String) := []
  /-- Attributes for the parameters. -/
  attributes : List ParameterAttribute := []

/-- A class to be declared. -/
structure Declaration where
  /-- The name of the class. -/
  name : String
  /-- Its container, the default one if none is given. -/
  container : Option String := none
  /-- Who may refer to it. -/
  visibility : Visibility := .external
  /-- What it is for. -/
  kind : ClassKind := .plain
  /-- The class that it derives from. -/
  parent : Option Class := none
  /-- Its fields. -/
  fields : List FieldDecl := []
  /-- Its properties. -/
  properties : List PropertyDecl := []
  /-- Its constructors. -/
  constructors : List ConstructorDecl := []

namespace Layer

/-- Add a declared field. -/
def declareField (layer : Layer) (f : FieldDecl) : Layer :=
  layer.addField f.name f.ty f.isPublic f.isReadonly

/-- The name of the slot of a declared property. -/
def declaredSlotName (property : String) : String := s!"<{property}>k__BackingField"

/-- Add a declared property. -/
def declareProperty (layer : Layer) (p : PropertyDecl) : Layer :=
  layer.addProperty p.name (declaredSlotName p.name) p.ty p.writable []

end Layer

/--
The slot that a constructor of a class in the making stores into under this name: that of a field
or property of the class itself, the first one declared, or of an inherited one, fields first.
-/
def Class.assignedSlot? (c : Class) (member : String) : Option Nat :=
  match c.own.fields.find? (·.name == member) with
  | some f => some f.slot
  | none =>
    match c.own.properties.find? (·.name == member) with
    | some p => p.slot
    | none =>
      match c.parent.bind (·.field? member) with
      | some f => some f.slot
      | none => c.parent.bind fun parent => (parent.property? member).bind (·.2.slot)

namespace ConstructorDecl

/-- The number of the first parameter of this name. -/
def parameter? (d : ConstructorDecl) (name : String) : Option Nat :=
  d.parameters.findIdx? (·.1 == name)

/-- The argument and the slot of an assignment in a constructor of a class in the making. -/
def compileAssignment (d : ConstructorDecl) (c : Class) (parameter member : String) :
    Except Error (Nat × Nat) :=
  match d.parameter? parameter with
  | none => .error (.unknownMember c.name parameter)
  | some argument =>
    match c.assignedSlot? member with
    | none => .error (.unknownMember c.name member)
    | some slot => .ok (argument, slot)

/-- The parameters, without attributes. -/
def plainParameters (d : ConstructorDecl) : List Parameter :=
  d.parameters.mapIdx fun index (name, ty) => ⟨name, ty, index, []⟩

/-- Attach an attribute to the first parameter of the name it is meant for. -/
def attach (className : String) (parameters : List Parameter) (a : ParameterAttribute) :
    Except Error (List Parameter) :=
  match parameters.findIdx? (·.name == a.parameter) with
  | none => .error (.unknownMember className a.parameter)
  | some index => do
    let made ← Application.resolve ⟨a.kind, a.arguments, none⟩
    return parameters.modify index fun p => { p with attributes := p.attributes ++ [made] }

/-- The constructor for a class in the making; `base` is the constructor of the parent to run. -/
def compile (d : ConstructorDecl) (c : Class) (base : Option Nat) : Except Error Constructor := do
  let assignments ← d.assignments.mapM fun (parameter, member) =>
    d.compileAssignment c parameter member
  let parameters ← d.attributes.foldlM (attach c.name) d.plainParameters
  return ⟨parameters, Code.storing base assignments⟩

end ConstructorDecl

namespace Declaration

/-- The declared class with its fields and properties, before its constructors. -/
def members (d : Declaration) (key : ClassKey) (container : String) : Class :=
  (Class.empty key d.name container d.visibility d.kind d.parent).mapOwn fun layer =>
    d.properties.foldl Layer.declareProperty (d.fields.foldl Layer.declareField layer)

/-- The constructor of the parent that every declared constructor runs first. -/
def baseConstructor (d : Declaration) : Except Error (Option Nat) :=
  match d.parent with
  | none => .ok none
  | some parent =>
    if parent.constructors.isEmpty then .ok none
    else
      match parent.parameterless? with
      | some target => .ok (some target)
      | none => .error (.noConstructor parent.name [] "parent")

/-- The declared class. -/
def compile (d : Declaration) (key : ClassKey) (container : String) : Except Error Class := do
  let c := d.members key container
  let base ← d.baseConstructor
  let constructors ← d.constructors.mapM fun k => k.compile c base
  return c.mapOwn fun layer => { layer with constructors }

end Declaration

/-- Declare a class. -/
def Registry.declare (d : Declaration) : EStateM Error Registry Class := fun r =>
  let (key, r) := r.allocate
  match d.compile key (r.containerName d.container) with
  | .ok c => .ok c (r.register c)
  | .error e => .error e r

end ClassSynthesis
