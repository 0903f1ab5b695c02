import ClassSynthesis.Configuration

/-!
# Builders

A builder takes a draft from its opening to its class. It refuses every further change once it has
built its class, and it builds only once. A property may be defined together with its
configuration; if that fails, the property is removed again.
-/

namespace ClassSynthesis

/-- A type under construction with the class that came of it. -/
structure Builder where
  /-- The type under construction. -/
  draft : Draft
  /-- The class, once it is built. -/
  built : Option Class

namespace Builder

variable {α ρ : Type}

/-- Open a builder. -/
def start (r : Registry) (name : String) (container : Option String) (base : Option Class) :
    Except Error Builder :=
  (Draft.start r name container base).map fun draft => ⟨draft, none⟩

/-- The class has been built. -/
def isBuilt (b : Builder) : Bool := b.built.isSome

/-- Refuse to change a type that has been built. -/
def checkUnbuilt (b : Builder) : Except Error Unit :=
  if b.isBuilt then .error (.frozen b.draft.name) else .ok ()

/-- Do something to the draft, unless the class has been built. -/
def onDraft (action : EStateM Error Draft α) : EStateM Error Builder α := fun b =>
  match b.checkUnbuilt with
  | .error e => .error e b
  | .ok () =>
    match action b.draft with
    | .ok result draft => .ok result { b with draft }
    | .error e draft => .error e { b with draft }

/-- Define a property. -/
def define (name : String) (ty : Ty) : EStateM Error Builder PropertyHandle :=
  onDraft (Draft.define name ty)

/-- Attach an attribute to the type. -/
def addAttribute (a : Application) : EStateM Error Builder Unit :=
  onDraft (Draft.attach .type a)

/-- Define a property and configure it; remove it again if the configuration fails. -/
def defineWith (name : String) (ty : Ty) (configuration : PropertyScope → Configuration ρ) :
    StateM Builder (Configured ρ) := fun b =>
  match define name ty b with
  | .error e b => (⟨.error e, none⟩, b)
  | .ok handle b =>
    match (configuration ⟨handle, name⟩).run handle b.draft with
    | (⟨.ok (), report⟩, draft) => (⟨.ok (), report⟩, { b with draft })
    | (⟨.error e, report⟩, draft) =>
      (⟨.error e, report⟩, { b with draft := draft.removeLast handle })

/-- Configure a property that was defined before. -/
def configure (handle : PropertyHandle) (configuration : PropertyScope → Configuration ρ) :
    StateM Builder (Configured ρ) := fun b =>
  match b.checkUnbuilt with
  | .error e => (⟨.error e, none⟩, b)
  | .ok () =>
    match b.draft.property? handle with
    | none => (⟨.error (b.draft.unknownHandle handle), none⟩, b)
    | some p =>
      match (configuration ⟨handle, p.name⟩).run handle b.draft with
      | (configured, draft) => (configured, { b with draft })

/-- Build the class. -/
def build : EStateM Error (Builder × Registry) Class := fun (b, r) =>
  if b.isBuilt then .error (.alreadyBuilt b.draft.name) (b, r)
  else
    match Draft.realize (b.draft, r) with
    | .ok c (draft, r) => .ok c (⟨draft, some c⟩, r)
    | .error e (draft, r) => .error e ({ b with draft }, r)

end Builder

end ClassSynthesis
