import ClassSynthesis.Class

/-!
# Laying out a class

A class in the making starts with the slots of its parent. Each field and each property adds one
slot at the end, so code of the parent finds its slots where they were. A property also adds its
accessors, which read and write that slot.
-/

namespace ClassSynthesis

namespace Layer

/-- Add a field with a slot of its name. -/
def addField (layer : Layer) (name : String) (ty : Ty) (isPublic isReadonly : Bool) : Layer :=
  { layer with
    slots := layer.slots ++ [⟨name, ty⟩]
    fields := layer.fields ++ [⟨name, ty, layer.slots.length, isPublic, isReadonly⟩] }

/-- The method that reads a property from its slot. -/
def getterMethod (name : String) (ty : Ty) (slot : Nat) : Method :=
  ⟨s!"get_{name}", [], some ty, Code.getter slot⟩

/-- The method that writes a property to its slot. -/
def setterMethod (name : String) (ty : Ty) (slot : Nat) : Method :=
  ⟨s!"set_{name}", [⟨"value", ty, 0, []⟩], none, Code.setter slot⟩

/-- Add a property with a slot of its own, a getter and, if it is writable, a setter. -/
def addProperty (layer : Layer) (name slotName : String) (ty : Ty) (writable : Bool)
    (attributes : List Attribute) : Layer :=
  let slot := layer.slots.length
  let getter := layer.methods.length
  { layer with
    slots := layer.slots ++ [⟨slotName, ty⟩]
    methods := layer.methods ++ getterMethod name ty slot ::
      if writable then [setterMethod name ty slot] else []
    properties := layer.properties ++
      [⟨name, ty, some getter, if writable then some (getter + 1) else none, some slot,
        attributes⟩] }

@[simp] theorem slots_addField (layer : Layer) (name : String) (ty : Ty)
    (isPublic isReadonly : Bool) :
    (layer.addField name ty isPublic isReadonly).slots = layer.slots ++ [⟨name, ty⟩] := rfl

@[simp] theorem properties_addField (layer : Layer) (name : String) (ty : Ty)
    (isPublic isReadonly : Bool) :
    (layer.addField name ty isPublic isReadonly).properties = layer.properties := rfl

@[simp] theorem slots_addProperty (layer : Layer) (name slotName : String) (ty : Ty)
    (writable : Bool) (attributes : List Attribute) :
    (layer.addProperty name slotName ty writable attributes).slots =
      layer.slots ++ [⟨slotName, ty⟩] := rfl

@[simp] theorem fields_addProperty (layer : Layer) (name slotName : String) (ty : Ty)
    (writable : Bool) (attributes : List Attribute) :
    (layer.addProperty name slotName ty writable attributes).fields = layer.fields := rfl

/-- The getter of an added property is the method that reads its slot. -/
theorem getter_addProperty (layer : Layer) (name slotName : String) (ty : Ty) (writable : Bool)
    (attributes : List Attribute) :
    (layer.addProperty name slotName ty writable attributes).methods[layer.methods.length]? =
      some (getterMethod name ty layer.slots.length) := by
  simp [addProperty]

/-- The setter of an added writable property is the method that writes its slot. -/
theorem setter_addProperty (layer : Layer) (name slotName : String) (ty : Ty)
    (attributes : List Attribute) :
    (layer.addProperty name slotName ty true attributes).methods[layer.methods.length + 1]? =
      some (setterMethod name ty layer.slots.length) := by
  simp [addProperty]

end Layer

namespace Class

/-- A class that declares nothing yet. -/
def empty (key : ClassKey) (name container : String) (visibility : Visibility) (kind : ClassKind)
    (parent : Option Class) : Class :=
  { own :=
      { key, name, container, visibility, kind
        slots := (parent.map slots).getD []
        fields := [], properties := [], methods := [], constructors := [], attributes := [] }
    ancestors := (parent.map layers).getD [] }

/-- Change what the class itself declares. -/
def mapOwn (c : Class) (change : Layer → Layer) : Class := { c with own := change c.own }

/-- The parent of a class in the making is the one that was given. -/
@[simp] theorem parent_empty (key : ClassKey) (name container : String) (visibility : Visibility)
    (kind : ClassKind) (parent : Option Class) :
    (empty key name container visibility kind parent).parent = parent := by
  rcases parent with _ | ⟨own, ancestors⟩ <;> rfl

/-- Changing what a class declares leaves its parent alone. -/
@[simp] theorem parent_mapOwn (c : Class) (change : Layer → Layer) :
    (c.mapOwn change).parent = c.parent := by
  rcases c with ⟨own, _ | ⟨parent, ancestors⟩⟩ <;> rfl

end Class

end ClassSynthesis
