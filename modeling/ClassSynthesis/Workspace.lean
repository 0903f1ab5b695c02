import ClassSynthesis.Declaration
import ClassSynthesis.SourceBuilder

/-!
# Workspaces

A workspace holds every registry created so far, each under its number, and counts the objects.
Numbers of registries tell apart classes that different registries give the same number, and
numbers of objects tell apart objects with equal content. The first registry is the shared one: a
builder for which no registry is chosen belongs to it.
-/

namespace ClassSynthesis

/-- All registries and the number of objects made so far. -/
structure Workspace where
  /-- The registries, each at the place that its number says. -/
  registries : Array Registry := #[]
  /-- The identity of the next object. -/
  nextObject : Nat := 0

namespace Workspace

variable {α σ : Type}

/-- Create a registry; its number is returned. -/
def addRegistry (options : Options) : StateM Workspace Nat := fun w =>
  let key := w.registries.size
  (key, { w with registries := w.registries.push (Registry.empty key options) })

/-- The registry of this number; one that was not created is empty. -/
def registry (w : Workspace) (key : Nat) : Registry :=
  w.registries[key]?.getD (Registry.empty key {})

/-- The shared registry, which is the first one. -/
def shared (w : Workspace) : Registry := w.registry 0

/-- Put back a registry that was changed. -/
def setRegistry (w : Workspace) (r : Registry) : Workspace :=
  { w with registries := w.registries.setIfInBounds r.key r }

/-- A registry that was put back is found under its number. -/
@[simp] theorem registry_setRegistry_self {w : Workspace} {r : Registry}
    (h : r.key < w.registries.size) : (w.setRegistry r).registry r.key = r := by
  simp [registry, setRegistry, h]

/-- Putting a registry back leaves the others alone. -/
theorem registry_setRegistry_of_ne {w : Workspace} {r : Registry} {key : Nat} (h : r.key ≠ key) :
    (w.setRegistry r).registry key = w.registry key := by
  simp [registry, setRegistry, Array.getElem?_setIfInBounds_ne h]

/-- Open a builder by name alone: in the default container of the shared registry, without a
base. -/
def startBuilder (w : Workspace) (name : String) : Except Error Builder :=
  Builder.start w.shared name none none

/-- Open a builder by its source alone: under the name of the source, in the default container of
the shared registry, for a type that does not derive from the source. -/
def startSourceBuilder (w : Workspace) (source : Class) : Except Error SourceBuilder :=
  SourceBuilder.start w.shared source none none false

/-- Do something with the registry of this number and something else. -/
def onRegistry (key : Nat) (action : EStateM Error (σ × Registry) α) :
    EStateM Error (σ × Workspace) α := fun (s, w) =>
  match action (s, w.registry key) with
  | .ok result (s, r) => .ok result (s, w.setRegistry r)
  | .error e (s, r) => .error e (s, w.setRegistry r)

/-- Declare a class in the registry of this number. -/
def declare (key : Nat) (d : Declaration) : EStateM Error Workspace Class := fun w =>
  match Registry.declare d (w.registry key) with
  | .ok c r => .ok c (w.setRegistry r)
  | .error e r => .error e (w.setRegistry r)

/-- Realize a draft in the registry that it was opened for. -/
def realize : EStateM Error (Draft × Workspace) Class := fun (d, w) =>
  onRegistry d.registry Draft.realize (d, w)

/-- Build a class in the registry that the builder was opened for. -/
def build : EStateM Error (Builder × Workspace) Class := fun (b, w) =>
  onRegistry b.draft.registry Builder.build (b, w)

/-- Build a class in the registry that the builder with a source was opened for. -/
def buildFromSource : EStateM Error (SourceBuilder × Workspace) Class := fun (b, w) =>
  onRegistry b.builder.draft.registry SourceBuilder.build (b, w)

/-- Make an object of an instance; it is equal to no other object. -/
def box (i : Instance) : StateM Workspace Value := fun w =>
  (.object w.nextObject i, { w with nextObject := w.nextObject + 1 })

end Workspace

end ClassSynthesis
