import ClassSynthesis.Proofs.Class.Faults
import ClassSynthesis.Proofs.Class.Realized
import ClassSynthesis.Proofs.Registry.Log

/-!
# Declaring a class

A class is declared as a whole or not at all. If the declaration is consistent, the class is
registered, with the slots of the parent, then one for each field, then one for each property. If it
is not, its first fault is reported and the registry answers as before; all that is left of the
attempt is a number that no class has.
-/

namespace ClassSynthesis

/-- The class is what the declaration says. -/
structure Declaration.Describes (d : Declaration) (c : Class) : Prop where
  /-- The name. -/
  name : c.name = d.name
  /-- Who may refer to it. -/
  visibility : c.own.visibility = d.visibility
  /-- What it is for. -/
  kind : c.own.kind = d.kind
  /-- The class that it derives from. -/
  parent : c.parent = d.parent
  /-- The slots of the parent come first, then one for each field, then one for each property. -/
  slots : c.slots = (d.parent.map Class.slots).getD [] ++
    d.fields.map (fun f => ⟨f.name, f.ty⟩) ++
      d.properties.map fun p => ⟨Layer.declaredSlotName p.name, p.ty⟩
  /-- The members are the declared ones, in order. -/
  members : c.own.members.map (·.1) = d.fields.map (·.name) ++ d.properties.map (·.name)
  /-- Each member is stored in the slot that was added for it. -/
  layout : c.LaidOut

/-- A class that is compiled from a declaration is what the declaration says. -/
theorem Declaration.describes_of_compile {d : Declaration} {key : ClassKey} {container : String}
    {c : Class} (h : d.compile key container = .ok c) :
    d.Describes c ∧ c.key = key ∧ c.own.container = container := by
  have hlayout := laidOut_of_compile h
  obtain ⟨base, constructors, -, -, rfl⟩ := compile_eq_ok h
  have hheading := d.heading_members key container
  refine ⟨⟨congrArg Layer.name hheading, congrArg Layer.visibility hheading,
    congrArg Layer.kind hheading, by simp, d.slots_members key container, ?_, hlayout⟩,
    congrArg Layer.key hheading, congrArg Layer.container hheading⟩
  rw [← d.names_fields_members key container, ← d.names_properties_members key container]
  simp [Layer.members, Class.mapOwn, Function.comp_def]

/-- On a class whose layouts are in order every property is stored in a slot. -/
theorem Class.Formed.provides_iff {c : Class} (h : c.Formed) {member : String} :
    c.Provides member ↔ (c.field? member).isSome ∨ (c.property? member).isSome := by
  unfold Class.Provides
  cases hp : c.property? member with
  | none => simp
  | some found =>
    obtain ⟨owner, p⟩ := found
    obtain ⟨slot, hstored, -⟩ := h.storedAt hp
    simp [hstored.place]

namespace Registry

/-- Two registries give the same answers to all questions for classes. -/
structure AnswersAs (left r : Registry) : Prop where
  /-- By number. -/
  get? : ∀ id, left.get? id = r.get? id
  /-- By name in a container. -/
  getByName? : ∀ container name, left.getByName? container name = r.getByName? container name
  /-- By qualified name. -/
  resolve : ∀ text, left.resolve text = r.resolve text
  /-- The classes of a container. -/
  containerTypes : ∀ container, left.containerTypes container = r.containerTypes container
  /-- The names of the containers. -/
  containerNames : left.containerNames = r.containerNames
  /-- The number of classes. -/
  size : left.size = r.size
  /-- Whether there are any. -/
  isEmpty : left.isEmpty = r.isEmpty

/-- A number that was used up changes no answer. -/
theorem answersAs_allocate (r : Registry) : r.allocate.2.AnswersAs r where
  get? := fun _ => rfl
  getByName? := fun _ _ => rfl
  resolve := fun _ => rfl
  containerTypes := fun _ => rfl
  containerNames := rfl
  size := rfl
  isEmpty := rfl

/-- A declaration uses up a number, and what is compiled is registered. -/
theorem declare_eq (d : Declaration) (r : Registry) :
    declare d r = match d.compile ⟨r.key, r.nextId⟩ (r.containerName d.container) with
      | .ok c => .ok c (r.allocate.2.register c)
      | .error e => .error e r.allocate.2 := rfl

/-- To declare a class succeeds if and only if the declaration is consistent. It then registers the
class, which is what the declaration says, under the next number and its name. If it fails, it
reports the first fault of the declaration, and has done no more than to use up a number. If the
parent was declared or realized, constructors may assign all fields and properties, own and
inherited ones. -/
theorem declare_succeeds_iff_consistent (d : Declaration) (r : Registry) :
    ((∃ c left, declare d r = .ok c left) ↔ d.Consistent) ∧
    (∀ c left, declare d r = .ok c left →
      d.Describes c ∧ c.key = ⟨r.key, r.nextId⟩ ∧
      c.own.container = r.containerName d.container ∧
      left = ({ r with nextId := r.nextId + 1 } : Registry).register c ∧
      left.classes = r.classes.push c ∧ left.getByName? d.container d.name = some c) ∧
    (∀ e left, declare d r = .error e left →
      d.faults.head? = some e ∧ left = { r with nextId := r.nextId + 1 } ∧ left.AnswersAs r) ∧
    ((∀ parent, d.parent = some parent → parent.Realized) → ∀ member,
      d.MayAssign member ↔
        member ∈ d.fields.map (·.name) ∨ member ∈ d.properties.map (·.name) ∨
          ∃ parent, d.parent = some parent ∧
            ((parent.field? member).isSome ∨ (parent.property? member).isSome)) := by
  have hreports := d.reports_compile ⟨r.key, r.nextId⟩ (r.containerName d.container)
  have hdeclare := declare_eq d r
  refine ⟨?_, ?_, ?_, ?_⟩
  · rw [← Declaration.faults_eq_nil_iff, ← hreports.exists_ok_iff, hdeclare]
    cases d.compile ⟨r.key, r.nextId⟩ (r.containerName d.container) with
    | ok c => simp
    | error e => simp
  · intro c left h
    rw [hdeclare] at h
    cases hc : d.compile ⟨r.key, r.nextId⟩ (r.containerName d.container) with
    | error e =>
      rw [hc] at h
      cases h
    | ok made =>
      rw [hc] at h
      cases h
      obtain ⟨hdescribes, hkey, hcontainer⟩ := Declaration.describes_of_compile hc
      have hfound := r.allocate.2.getByName?_register_self c
      rw [hcontainer, hdescribes.name] at hfound
      exact ⟨hdescribes, hkey, hcontainer, rfl, rfl, hfound⟩
  · intro e left h
    rw [hdeclare] at h
    cases hc : d.compile ⟨r.key, r.nextId⟩ (r.containerName d.container) with
    | ok made =>
      rw [hc] at h
      cases h
    | error e' =>
      rw [hc] at h hreports
      cases h
      exact ⟨hreports.head?_of_error, rfl, r.answersAs_allocate⟩
  · intro hparent member
    unfold Declaration.MayAssign
    cases hp : d.parent with
    | none => simp
    | some parent => simp [(hparent parent hp).formed.provides_iff]

/-- A point with a height and a label; its constructor also stores into the inherited field. -/
def solid (parent : Class) : Declaration where
  name := "Solid"
  parent := some parent
  fields := [{ name := "z", ty := .int }]
  properties := [{ name := "Label", ty := .str }]
  constructors :=
    [{ parameters := [("x", .int), ("label", .str)]
       assignments := [("x", "x"), ("label", "Label")] }]

/-- The same class with a second constructor that stores into a member which there is not, and
stores a parameter that it lacks. -/
def brokenSolid (parent : Class) : Declaration :=
  { solid parent with
    constructors := (solid parent).constructors ++
      [{ parameters := [("x", .int)], assignments := [("x", "x"), ("x", "y"), ("w", "z")] }] }

/-- The solid point is declared on top of the point. The broken one has two faults, and only the
first of them is reported. -/
theorem declare_succeeds_iff_consistent_solid :
    let r := (empty 0 {}).after [.declare point]
    let parent := point.members ⟨0, 0⟩ "DynamicAssembly"
    parent.Realized ∧ (solid parent).Consistent ∧ (solid parent).MayAssign "x" ∧
      (∃ c left, declare (solid parent) r = .ok c left ∧
        c.slots = [⟨"x", .int⟩, ⟨"z", .int⟩, ⟨"<Label>k__BackingField", .str⟩] ∧
        left.getByName? none "Solid" = some c) ∧
      ¬ (brokenSolid parent).Consistent ∧
      (brokenSolid parent).faults =
        [.unknownMember "Solid" "y", .unknownMember "Solid" "w"] ∧
      declare (brokenSolid parent) r =
        .error (.unknownMember "Solid" "y") { r with nextId := 2 } ∧
      ({ r with nextId := 2 } : Registry).AnswersAs r := by
  intro r parent
  have hrealized : parent.Realized := by
    have hpoint : declare point (empty 0 {}) = .ok parent r := rfl
    exact .declared (by rintro above ⟨⟩) hpoint
  obtain ⟨hconsistent, hdescribed, -, hassigned⟩ := declare_succeeds_iff_consistent (solid parent) r
  obtain ⟨hbroken, -, hreported, -⟩ := declare_succeeds_iff_consistent (brokenSolid parent) r
  obtain ⟨c, left, hdeclared⟩ : ∃ c left, declare (solid parent) r = .ok c left := ⟨_, _, rfl⟩
  obtain ⟨hdescribes, -, -, -, -, hfound⟩ := hdescribed c left hdeclared
  have hrefused : declare (brokenSolid parent) r =
      .error (.unknownMember "Solid" "y") { r with nextId := 2 } := rfl
  have hinherited := (hassigned (by rintro above ⟨⟩; exact hrealized) "x").mpr
    (.inr (.inr ⟨parent, rfl, .inl rfl⟩))
  refine ⟨hrealized, hconsistent.mp ⟨c, left, hdeclared⟩, hinherited,
    ⟨c, left, hdeclared, hdescribes.slots, hfound⟩, ?_, by decide, hrefused,
    (hreported _ _ hrefused).2.2⟩
  intro h
  obtain ⟨other, otherLeft, hother⟩ := hbroken.mpr h
  rw [hrefused] at hother
  cases hother

end Registry

end ClassSynthesis
