import ClassSynthesis.Declaration
import ClassSynthesis.Draft

/-!
# Headings of classes

The heading of a layer is all of it but the members: identity, name, container, visibility, kind,
constructors and attributes. Fields and properties are added to a class in the making without a
change in its heading, so a class has the heading that it was begun with, apart from the
constructors and attributes that it is given at the end.
-/

namespace ClassSynthesis

namespace Layer

/-- A layer without its members. -/
def heading (layer : Layer) : Layer :=
  { layer with slots := [], fields := [], properties := [], methods := [] }

@[simp] theorem heading_addField (layer : Layer) (name : String) (ty : Ty)
    (isPublic isReadonly : Bool) :
    (layer.addField name ty isPublic isReadonly).heading = layer.heading := rfl

@[simp] theorem heading_addProperty (layer : Layer) (name slotName : String) (ty : Ty)
    (writable : Bool) (attributes : List Attribute) :
    (layer.addProperty name slotName ty writable attributes).heading = layer.heading := rfl

/-- What is left alone by each member that is added is left alone by all of them. -/
theorem foldl_unchanged {α β : Type} (part : Layer → β) (add : Layer → α → Layer)
    (hadd : ∀ layer a, part (add layer a) = part layer) (members : List α) (layer : Layer) :
    part (members.foldl add layer) = part layer := by
  induction members generalizing layer with
  | nil => rfl
  | cons a rest ih => rw [List.foldl_cons, ih, hadd]

/-- Where each member that is added adds one entry, they all do, in order. -/
theorem foldl_append_map {α β : Type} (part : Layer → List β) (add : Layer → α → Layer)
    (entry : α → β) (hadd : ∀ layer a, part (add layer a) = part layer ++ [entry a])
    (members : List α) (layer : Layer) :
    part (members.foldl add layer) = part layer ++ members.map entry := by
  induction members generalizing layer with
  | nil => simp
  | cons a rest ih => rw [List.foldl_cons, ih, hadd, List.append_assoc, List.map_cons]; rfl

end Layer

/-- A class with its declared members has the heading that it was begun with. -/
theorem Declaration.heading_members (d : Declaration) (key : ClassKey) (container : String) :
    (d.members key container).own.heading =
      (Class.empty key d.name container d.visibility d.kind d.parent).own.heading := by
  rw [members, Class.mapOwn]
  have hproperty (layer : Layer) (p : PropertyDecl) :
      (layer.declareProperty p).heading = layer.heading :=
    layer.heading_addProperty p.name _ p.ty p.writable []
  have hfield (layer : Layer) (f : FieldDecl) :
      (layer.declareField f).heading = layer.heading :=
    layer.heading_addField f.name f.ty f.isPublic f.isReadonly
  exact (Layer.foldl_unchanged Layer.heading Layer.declareProperty hproperty d.properties _).trans
    (Layer.foldl_unchanged Layer.heading Layer.declareField hfield d.fields _)

/-- The heading of a compiled draft is its name in its container, with the kind of the base class,
one constructor for each of the draft, and the attributes of the draft. -/
theorem Draft.heading_compile (d : Draft) (key : ClassKey) :
    (d.compile key).own.heading =
      { (Class.empty key d.name d.container .external
          ((d.baseClass.map (·.own.kind)).getD .plain) d.baseClass).own.heading with
        constructors := d.constructors.map Forwarding.compile
        attributes := d.attributes } := by
  have hproperty (layer : Layer) (p : DraftProperty) :
      (compileProperty layer p).heading = layer.heading :=
    layer.heading_addProperty p.name p.slotName p.ty true p.attributes
  have hmembers := Layer.foldl_unchanged Layer.heading compileProperty hproperty d.properties
    (Class.empty key d.name d.container .external
      ((d.baseClass.map (·.own.kind)).getD .plain) d.baseClass).own
  rw [← hmembers]
  rfl

/-- A draft is compiled under the given identity. -/
theorem Draft.key_compile (d : Draft) (key : ClassKey) : (d.compile key).key = key :=
  congrArg Layer.key (d.heading_compile key)

end ClassSynthesis
