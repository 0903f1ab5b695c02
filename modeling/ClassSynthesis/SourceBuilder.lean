import ClassSynthesis.Builder

/-!
# Builders with a source

A builder with a source takes its properties from an existing class: a property is selected by name
among those that are visible on the source, and gets the type that it has there. The new type
derives from the source only if that is asked for.
-/

namespace ClassSynthesis

/-- A builder with the class that its properties are selected from. -/
structure SourceBuilder where
  /-- The source. -/
  source : Class
  /-- The builder. -/
  builder : Builder

namespace SourceBuilder

variable {α ρ : Type}

/-- Open a builder with a source, under the name of the source if none is given. -/
def start (r : Registry) (source : Class) (name container : Option String) (inherit : Bool) :
    Except Error SourceBuilder :=
  (Builder.start r (name.getD source.name) container (if inherit then some source else none)).map
    fun builder => ⟨source, builder⟩

/-- The type that a property has on the source. -/
def sourceType (b : SourceBuilder) (property : String) : Except Error Ty :=
  match b.source.property? property with
  | some (_, p) => .ok p.ty
  | none => .error (.unknownSelection b.source.name property "property_selector")

/-- Do something to the builder. -/
def onBuilder (action : EStateM Error Builder α) : EStateM Error SourceBuilder α := fun b =>
  match action b.builder with
  | .ok result builder => .ok result { b with builder }
  | .error e builder => .error e { b with builder }

/-- Define a property with the type that it has on the source. -/
def define (property : String) : EStateM Error SourceBuilder PropertyHandle := fun b =>
  match b.sourceType property with
  | .error e => .error e b
  | .ok ty => onBuilder (Builder.define property ty) b

/-- Define and configure a property with the type that it has on the source. -/
def defineWith (property : String) (configuration : PropertyScope → Configuration ρ) :
    StateM SourceBuilder (Configured ρ) := fun b =>
  match b.sourceType property with
  | .error e => (⟨.error e, none⟩, b)
  | .ok ty =>
    match Builder.defineWith property ty configuration b.builder with
    | (configured, builder) => (configured, { b with builder })

/-- Configure a property that was defined before. -/
def configure (handle : PropertyHandle) (configuration : PropertyScope → Configuration ρ) :
    StateM SourceBuilder (Configured ρ) := fun b =>
  match Builder.configure handle configuration b.builder with
  | (configured, builder) => (configured, { b with builder })

/-- Attach an attribute to the type. -/
def addAttribute (a : Application) : EStateM Error SourceBuilder Unit :=
  onBuilder (Builder.addAttribute a)

/-- Build the class. -/
def build : EStateM Error (SourceBuilder × Registry) Class := fun (b, r) =>
  match Builder.build (b.builder, r) with
  | .ok c (builder, r) => .ok c ({ b with builder }, r)
  | .error e (builder, r) => .error e ({ b with builder }, r)

end SourceBuilder

end ClassSynthesis
