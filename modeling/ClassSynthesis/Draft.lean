import ClassSynthesis.Application
import ClassSynthesis.Class.Layout
import ClassSynthesis.Registry
import ClassSynthesis.Text.Identifier
import ClassSynthesis.Text.Lowercase

/-!
# Drafts

A draft is a type under construction. Properties and attributes are added to it until it is
realized, which compiles it into a class, registers the class and freezes the draft. A type that
derives from a base class gets a constructor for each one of the base, which passes its arguments
on. Every operation checks first and changes the draft only if all checks pass.
-/

namespace ClassSynthesis

/-- A property of a type under construction. -/
structure DraftProperty where
  /-- The name of the property; `Draft.define` refuses a second one of a name. -/
  name : String
  /-- Its type. -/
  ty : Ty
  /-- The name of the slot that will hold its value. -/
  slotName : String
  /-- Its attributes, in the order of attachment. -/
  attributes : List Attribute

/-- A property of a draft by its position. -/
structure PropertyHandle where
  /-- The position of the property. -/
  index : Nat
  deriving DecidableEq, Repr

/-- A base class as it was when the draft was opened. -/
structure Base where
  /-- The base class. -/
  cls : Class
  /-- Its constructors. -/
  constructors : List Constructor

/-- A constructor that passes its arguments on to one of the base class. -/
structure Forwarding where
  /-- Its parameters, those of the constructor of the base. -/
  parameters : List Parameter
  /-- The number of the constructor of the base. -/
  target : Nat

/-- A type under construction. -/
structure Draft where
  /-- The registry that the class will go to. -/
  registry : Nat
  /-- What the slot names of the properties begin with. -/
  slotPrefix : String
  /-- The name of the type. -/
  name : String
  /-- Its container. -/
  container : String
  /-- The class that it derives from, if any. -/
  base : Option Base
  /-- Its constructors. -/
  constructors : List Forwarding
  /-- Its properties, in the order of definition. -/
  properties : List DraftProperty
  /-- Attributes of the type itself, in the order of attachment. -/
  attributes : List Attribute
  /-- Whether it has been realized. -/
  isFrozen : Bool

/-- What an attribute is attached to. -/
inductive Target where
  /-- The type itself. -/
  | type
  /-- One of its properties. -/
  | property (handle : PropertyHandle)
  deriving DecidableEq, Repr

/-- The name of a property's slot: the first letter in lower case, and something before it. -/
def slotNameOf (before name : String) : String :=
  match name.toList with
  | [] => before
  | first :: rest => before ++ String.ofList (Text.lowercase first ++ rest)

/-- Capture a base class. -/
def Base.ofClass (c : Class) : Base := ⟨c, c.constructors⟩

/-- One constructor for each of the base class. -/
def Base.forwardings (base : Base) : List Forwarding :=
  base.constructors.mapIdx fun target k => ⟨k.parameters, target⟩

/-- The constructor, with a body that only calls the one of the base. -/
def Forwarding.compile (f : Forwarding) : Constructor :=
  ⟨f.parameters, Code.forwarding f.target f.parameters.length⟩

namespace Draft

/-- Open a draft. -/
def start (r : Registry) (name : String) (container : Option String) (base : Option Class) :
    Except Error Draft :=
  if Text.isIdentifier name then
    let bound := base.map Base.ofClass
    .ok
      { registry := r.key
        slotPrefix := r.options.slotPrefix
        name
        container := r.containerName container
        base := bound
        constructors := (bound.map Base.forwardings).getD []
        properties := []
        attributes := []
        isFrozen := false }
  else .error (.invalidIdentifier name)

/-- The class that the type derives from. -/
def baseClass (d : Draft) : Option Class := d.base.map (·.cls)

/-- A property by its handle. -/
def property? (d : Draft) (handle : PropertyHandle) : Option DraftProperty :=
  d.properties[handle.index]?

/-- The handle of the property of this name. -/
def handle? (d : Draft) (name : String) : Option PropertyHandle :=
  (d.properties.findIdx? (·.name == name)).map PropertyHandle.mk

/-- The error for a handle that stands for no property. -/
def unknownHandle (d : Draft) (handle : PropertyHandle) : Error :=
  .unknownMember d.name s!"property #{handle.index}"

/-- Why a property of this name may not be defined, if it may not. -/
def checkDefine (d : Draft) (name : String) : Except Error Unit :=
  if d.isFrozen then .error (.frozen d.name)
  else if !Text.isIdentifier name then .error (.invalidIdentifier name)
  else if (d.handle? name).isSome then .error (.duplicateProperty d.name name)
  else .ok ()

/-- Put a property at the end. -/
def addProperty (d : Draft) (name : String) (ty : Ty) : Draft :=
  { d with properties := d.properties ++ [⟨name, ty, slotNameOf d.slotPrefix name, []⟩] }

/-- Define a property. -/
def define (name : String) (ty : Ty) : EStateM Error Draft PropertyHandle := fun d =>
  match d.checkDefine name with
  | .ok () => .ok ⟨d.properties.length⟩ (d.addProperty name ty)
  | .error e => .error e d

/-- A definition that fails leaves the draft as it was. -/
theorem define_eq_error {name : String} {ty : Ty} {d left : Draft} {e : Error}
    (h : define name ty d = .error e left) : left = d := by
  unfold define at h
  split at h <;> simp_all

/-- Remove a property if it is the last one. -/
def removeLast (d : Draft) (handle : PropertyHandle) : Draft :=
  if handle.index + 1 == d.properties.length then
    { d with properties := d.properties.dropLast }
  else d

/-- Why nothing may be attached to a target, if nothing may. -/
def checkTarget (d : Draft) : Target → Except Error Unit
  | .type => .ok ()
  | .property handle =>
    if (d.property? handle).isSome then .ok () else .error (d.unknownHandle handle)

/-- Put an attribute at the end of those of the target. -/
def addAttribute (d : Draft) (target : Target) (a : Attribute) : Draft :=
  match target with
  | .type => { d with attributes := d.attributes ++ [a] }
  | .property handle =>
    { d with
      properties := d.properties.modify handle.index fun p =>
        { p with attributes := p.attributes ++ [a] } }

/-- The attribute that an application would attach to the target. -/
def checkAttach (d : Draft) (target : Target) (a : Application) : Except Error Attribute :=
  if d.isFrozen then .error (.frozen d.name)
  else
    match d.checkTarget target with
    | .ok () => a.resolve
    | .error e => .error e

/-- Attach an attribute. -/
def attach (target : Target) (a : Application) : EStateM Error Draft Unit := fun d =>
  match d.checkAttach target a with
  | .ok made => .ok () (d.addAttribute target made)
  | .error e => .error e d

/-- An attachment that fails leaves the draft as it was. -/
theorem attach_eq_error {target : Target} {a : Application} {d left : Draft} {e : Error}
    (h : attach target a d = .error e left) : left = d := by
  unfold attach at h
  split at h <;> simp_all

/-- Add a property of a draft to a class in the making. -/
def compileProperty (layer : Layer) (p : DraftProperty) : Layer :=
  layer.addProperty p.name p.slotName p.ty true p.attributes

/-- The class that a draft describes; deriving from an attribute class gives an attribute class. -/
def compile (d : Draft) (key : ClassKey) : Class :=
  let kind := (d.baseClass.map (·.own.kind)).getD .plain
  (Class.empty key d.name d.container .external kind d.baseClass).mapOwn fun layer =>
    { d.properties.foldl compileProperty layer with
      constructors := d.constructors.map Forwarding.compile
      attributes := d.attributes }

/-- Register the class that a draft describes, and freeze the draft. -/
def realize : EStateM Error (Draft × Registry) Class := fun (d, r) =>
  if d.isFrozen then .error (.frozen d.name) (d, r)
  else
    let (key, r) := r.allocate
    let c := d.compile key
    .ok c ({ d with isFrozen := true }, r.register c)

end Draft

end ClassSynthesis
