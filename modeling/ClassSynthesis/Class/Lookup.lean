import ClassSynthesis.Class

/-!
# Looking up members

A name is looked for on the class itself, then on its ancestors from the parent up, so that a
declaration hides those above it. Where one class declares a name twice, the later declaration
counts. A property hides every field of its name when a member is to be written.
-/

namespace ClassSynthesis

namespace Layer

/-- The property of this name that the class itself declares. -/
def property? (layer : Layer) (name : String) : Option Property :=
  layer.properties.reverse.find? (·.name == name)

/-- The field of this name that the class itself declares. -/
def field? (layer : Layer) (name : String) : Option Field :=
  layer.fields.reverse.find? (·.name == name)

end Layer

/-- A member that may be written after construction. -/
inductive WritableMember where
  /-- A property with a setter. -/
  | property (of : Property)
  /-- A public field that is not read-only. -/
  | field (of : Field)

/-- The type of a writable member. -/
def WritableMember.ty : WritableMember → Ty
  | property p => p.ty
  | field f => f.ty

/-- Of several properties with one name only the first stays. -/
def firstOfEachName : List Property → List Property
  | [] => []
  | p :: rest => p :: (firstOfEachName rest).filter (·.name != p.name)

namespace Class

/-- The property of this name, with the class that declares it. -/
def property? (c : Class) (name : String) : Option (Class × Property) :=
  c.lineage.findSome? fun owner => (owner.own.property? name).map (owner, ·)

/-- The field of this name. -/
def field? (c : Class) (name : String) : Option Field :=
  c.layers.findSome? (·.field? name)

/-- Every property that no other one hides, those of the class itself first. -/
def allProperties (c : Class) : List Property :=
  firstOfEachName (c.layers.flatMap (·.properties))

/-- The member of this name, if it may be written after construction. -/
def writable? (c : Class) (name : String) : Option WritableMember :=
  match c.property? name with
  | some (_, p) => if p.setter.isSome then some (.property p) else none
  | none => ((c.field? name).filter fun f => f.isPublic && !f.isReadonly).map .field

/-- A method that the class declares, by its number. -/
def method? (c : Class) (index : Nat) : Option Method := c.own.methods[index]?

/-- The number of the first constructor without parameters. -/
def parameterless? (c : Class) : Option Nat :=
  c.constructors.findIdx? (·.parameters.isEmpty)

end Class

/-- The attribute is of this class or of one that derives from it. -/
def Attribute.isA (a : Attribute) (kind : Class) : Bool := a.kind.isSubclassOf kind

/-- The attributes of the class itself that are of a given class. -/
def Class.attributesOf (c kind : Class) : List Attribute :=
  c.own.attributes.filter (·.isA kind)

/-! ### What the look-ups find -/

theorem Layer.name_of_property? {layer : Layer} {name : String} {p : Property}
    (h : layer.property? name = some p) : p.name = name ∧ p ∈ layer.properties := by
  unfold Layer.property? at h
  exact ⟨by simpa using List.find?_some h, by simpa using List.mem_of_find?_eq_some h⟩

theorem Layer.name_of_field? {layer : Layer} {name : String} {f : Field}
    (h : layer.field? name = some f) : f.name = name ∧ f ∈ layer.fields := by
  unfold Layer.field? at h
  exact ⟨by simpa using List.find?_some h, by simpa using List.mem_of_find?_eq_some h⟩

/-- A property is looked for on the class and then on its parent. -/
theorem Class.property?_eq (c : Class) (name : String) :
    c.property? name = match c.own.property? name with
      | some p => some (c, p)
      | none => c.parent.bind (·.property? name) := by
  unfold Class.property?
  rw [c.lineage_eq, List.findSome?_cons]
  cases hown : c.own.property? name with
  | some p => rfl
  | none => cases c.parent <;> rfl

/-- A field is looked for on the class and then on its parent. -/
theorem Class.field?_eq (c : Class) (name : String) :
    c.field? name = match c.own.field? name with
      | some f => some f
      | none => c.parent.bind (·.field? name) := by
  rcases c with ⟨own, _ | ⟨parent, ancestors⟩⟩ <;>
    simp only [Class.field?, Class.layers, Class.parent, List.findSome?_cons] <;>
    cases own.field? name <;> rfl

end ClassSynthesis
