import ClassSynthesis.Code
import ClassSynthesis.Ty

/-!
# Classes

A class is made of layers, its own and those of its ancestors, parent first. A layer holds what one
class declares, and the full slot layout of its instances, inherited slots first. Classes, values,
instances and attributes refer to each other: an attribute is a class with the arguments to make an
instance of it, an object is an instance, and an instance is a class with the values of its slots.
-/

namespace ClassSynthesis

/-- Who may refer to a class. -/
inductive Visibility where
  /-- Everyone. -/
  | external
  /-- Code of the same container. -/
  | internal
  /-- Code of the enclosing class. -/
  | nested
  deriving DecidableEq, Repr

/-- What a class is for. -/
inductive ClassKind where
  /-- An ordinary class. -/
  | plain
  /-- A class whose instances describe types, members and parameters. -/
  | metadata
  deriving DecidableEq, Repr

/-- One place of storage in an instance. -/
structure Slot where
  /-- The name of the slot, not necessarily unique. -/
  name : String
  /-- The type of the values that it holds. -/
  ty : Ty
  deriving DecidableEq, Repr

/-- A member that is a slot by itself. -/
structure Field where
  /-- The name of the field. -/
  name : String
  /-- Its type. -/
  ty : Ty
  /-- Its place in the layout. -/
  slot : Nat
  /-- Whether it is open to everyone. -/
  isPublic : Bool
  /-- Whether only constructors may write it. -/
  isReadonly : Bool
  deriving DecidableEq, Repr

mutual

/-- A class: its own layer and those of its ancestors, parent first. -/
structure Class where
  /-- What the class itself declares. -/
  own : Layer
  /-- What its ancestors declare, the parent first. -/
  ancestors : List Layer

/-- What one class declares. -/
structure Layer where
  /-- The identity of the class. -/
  key : ClassKey
  /-- Its name. -/
  name : String
  /-- The container that it belongs to. -/
  container : String
  /-- Who may refer to it. -/
  visibility : Visibility
  /-- What it is for. -/
  kind : ClassKind
  /-- The layout of its instances, inherited slots first. -/
  slots : List Slot
  /-- Its fields. -/
  fields : List Field
  /-- Its properties. -/
  properties : List Property
  /-- Its methods, which are the accessors of its properties. -/
  methods : List Method
  /-- Its constructors. -/
  constructors : List Constructor
  /-- Attributes of the class itself, in the order of attachment. -/
  attributes : List Attribute

/-- A member that is read and written through accessors. -/
structure Property where
  /-- The name of the property. -/
  name : String
  /-- Its type. -/
  ty : Ty
  /-- The method that reads it, by its number on the declaring class. -/
  getter : Option Nat
  /-- The method that writes it, by its number on the declaring class. -/
  setter : Option Nat
  /-- The slot that holds its value. -/
  slot : Option Nat
  /-- Its attributes, in the order of attachment. -/
  attributes : List Attribute

/-- A parameter of a method or constructor. -/
structure Parameter where
  /-- The name of the parameter. -/
  name : String
  /-- Its type. -/
  ty : Ty
  /-- Its place in the parameter list. -/
  index : Nat
  /-- Its attributes, in the order of attachment. -/
  attributes : List Attribute

/-- A method. -/
structure Method where
  /-- The name of the method. -/
  name : String
  /-- Its parameters. -/
  parameters : List Parameter
  /-- The type of what it returns, if it returns anything. -/
  returns : Option Ty
  /-- Its body. -/
  code : Code

/-- A constructor. -/
structure Constructor where
  /-- Its parameters. -/
  parameters : List Parameter
  /-- Its body. -/
  code : Code

/-- A class with the arguments for one of its constructors and values for some of its members. -/
structure Attribute where
  /-- The class of the attribute. -/
  kind : Class
  /-- The number of the constructor. -/
  target : Nat
  /-- The arguments for the constructor. -/
  arguments : List Value
  /-- Members to be written after construction, in this order. -/
  overrides : List (String × Value)

/-- A value. -/
inductive Value where
  /-- The absent reference. -/
  | null
  /-- A boolean. -/
  | bool (b : Bool)
  /-- A signed integer. -/
  | int (i : Int64)
  /-- A floating-point number. -/
  | float (x : Float)
  /-- A text. -/
  | str (text : String)
  /-- An object: an instance with an identity of its own. -/
  | object (identity : Nat) (of : Instance)

/-- An instance of a class. -/
structure Instance where
  /-- The class. -/
  cls : Class
  /-- The values of its slots, in the order of the layout. -/
  slots : List Value

end

namespace Class

/-- The identity of a class. -/
abbrev key (c : Class) : ClassKey := c.own.key

/-- The name of a class. -/
abbrev name (c : Class) : String := c.own.name

/-- The slot layout of a class. -/
abbrev slots (c : Class) : List Slot := c.own.slots

/-- How many values an instance of a class stores. -/
def slotCount (c : Class) : Nat := c.slots.length

/-- The constructors that a class declares. -/
abbrev constructors (c : Class) : List Constructor := c.own.constructors

/-- The class as types refer to it. -/
def ref (c : Class) : ClassRef := ⟨c.key, c.name⟩

/-- The type of the objects of a class. -/
def ty (c : Class) : Ty := .object c.ref

/-- The class that a class derives from. -/
def parent : Class → Option Class
  | ⟨_, []⟩ => none
  | ⟨_, own :: ancestors⟩ => some ⟨own, ancestors⟩

/-- The layers of a class, its own first. -/
def layers (c : Class) : List Layer := c.own :: c.ancestors

/-- A layer with everything above it, as a list of classes from the most derived one up. -/
def lineageFrom : Layer → List Layer → List Class
  | own, [] => [⟨own, []⟩]
  | own, parent :: ancestors => ⟨own, parent :: ancestors⟩ :: lineageFrom parent ancestors

/-- The class and its ancestors, from the class up. -/
def lineage (c : Class) : List Class := lineageFrom c.own c.ancestors

/-- Two classes are the same if they have the same identity. -/
def same (a b : Class) : Bool := a.key == b.key

/-- The class is the one of this identity or derives from it. -/
def derivesFrom (c : Class) (key : ClassKey) : Bool := c.layers.any (·.key == key)

/-- The class is another one or derives from it. -/
def isSubclassOf (c other : Class) : Bool := c.derivesFrom other.key

/-- Objects of the class may serve as attributes. -/
def isAttribute (c : Class) : Bool := c.own.kind == .metadata

/-- The class may be referred to from everywhere. -/
def isExternal (c : Class) : Bool := c.own.visibility == .external

/-- A lineage is the class and the lineage of its parent. -/
theorem lineage_eq (c : Class) :
    c.lineage = c :: (c.parent.map lineage).getD [] := by
  rcases c with ⟨own, _ | ⟨parent, ancestors⟩⟩ <;> rfl

/-- The own layers of a lineage are the layers of the class. -/
theorem map_own_lineage (c : Class) : c.lineage.map own = c.layers := by
  rcases c with ⟨own, ancestors⟩
  simp only [lineage, layers]
  induction ancestors generalizing own with
  | nil => rfl
  | cons parent ancestors ih => simp [lineageFrom, ih]

/-- A class derives from what its lineage holds. -/
theorem derivesFrom_iff {c : Class} {key : ClassKey} :
    c.derivesFrom key ↔ ∃ d ∈ c.lineage, d.key = key := by
  have hmap : c.layers = c.lineage.map own := (map_own_lineage c).symm
  simp [derivesFrom, hmap, Class.key]

/-- Every class is a subclass of itself. -/
@[simp] theorem isSubclassOf_refl (c : Class) : c.isSubclassOf c = true := by
  simp [isSubclassOf, derivesFrom, layers]

end Class

end ClassSynthesis
