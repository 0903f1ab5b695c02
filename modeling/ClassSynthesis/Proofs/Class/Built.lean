import ClassSynthesis.Proofs.Builder.Opening
import ClassSynthesis.Proofs.Class.Formation
import ClassSynthesis.Proofs.Code.Bodies

/-!
# What a builder makes

The class that a builder makes derives from the base that the builder was opened with. Its layout is
in order on top of the base, it declares properties only, and it has one constructor for each of
the base, which passes its arguments on to that one.
-/

namespace ClassSynthesis

namespace Draft

@[simp] theorem parent_compile (d : Draft) (key : ClassKey) :
    (d.compile key).parent = d.baseClass := by
  simp [compile]

/-- Adding the properties of a draft keeps a layout in order. -/
theorem laidOut_compileProperties {layer : Layer} {inherited : List Slot}
    (h : layer.LaidOut inherited) (properties : List DraftProperty) :
    (properties.foldl compileProperty layer).LaidOut inherited := by
  induction properties generalizing layer with
  | nil => exact h
  | cons p properties ih => exact ih (h.addProperty p.name p.slotName p.ty true p.attributes)

theorem fields_compileProperties (properties : List DraftProperty) (layer : Layer) :
    (properties.foldl compileProperty layer).fields = layer.fields := by
  induction properties generalizing layer with
  | nil => rfl
  | cons p properties ih =>
    rw [List.foldl_cons, ih]
    rfl

/-- Whatever the draft, it is compiled to a class with a layout on top of the base. -/
theorem laidOut_compile (d : Draft) (key : ClassKey) : (d.compile key).LaidOut := by
  have hempty := Class.laidOut_empty key d.name d.container .external
    ((d.baseClass.map (·.own.kind)).getD .plain) d.baseClass
  rw [Class.LaidOut, Class.inherited, parent_compile]
  exact (laidOut_compileProperties hempty d.properties).congr rfl rfl rfl rfl

@[simp] theorem fields_compile (d : Draft) (key : ClassKey) : (d.compile key).own.fields = [] :=
  fields_compileProperties d.properties _

/-- A draft that was just opened has the given base, and passes on to the constructors of the
base. -/
theorem base_of_start {r : Registry} {name : String} {container : Option String}
    {base : Option Class} {d : Draft} (h : start r name container base = .ok d) :
    d.baseClass = base ∧
      d.constructors = ((base.map Base.ofClass).map Base.forwardings).getD [] := by
  unfold start at h
  split at h
  · rw [← Except.ok.inj h]
    cases base <;> exact ⟨rfl, rfl⟩
  · cases h

end Draft

namespace Class.BuiltOn

variable {base : Option Class} {c : Class}

/-- What is built on a base is a draft, compiled, with this base and the constructors for it. -/
theorem exists_compile (h : c.BuiltOn base) :
    ∃ (d : Draft) (key : ClassKey), c = d.compile key ∧ d.baseClass = base ∧
      d.constructors = ((base.map Base.ofClass).map Base.forwardings).getD [] := by
  obtain ⟨d, key, hc, r, name, container, hstart⟩ := h.exists_draft
  obtain ⟨hbase, hconstructors⟩ := Draft.base_of_start hstart
  exact ⟨d, key, hc, hbase, hconstructors⟩

/-- The base is the parent. -/
theorem parent_eq (h : c.BuiltOn base) : c.parent = base := by
  obtain ⟨d, key, rfl, hbase, -⟩ := h.exists_compile
  rw [Draft.parent_compile, hbase]

theorem laidOut (h : c.BuiltOn base) : c.LaidOut := by
  obtain ⟨d, key, rfl, -⟩ := h.exists_compile
  exact d.laidOut_compile key

/-- No fields are declared. -/
theorem fields_eq (h : c.BuiltOn base) : c.own.fields = [] := by
  obtain ⟨d, key, rfl, -⟩ := h.exists_compile
  exact d.fields_compile key

/-- There is one constructor for each of the base, with its parameters. -/
theorem constructors_eq {b : Class} (h : c.BuiltOn (some b)) :
    c.constructors = b.constructors.mapIdx fun target k =>
      ⟨k.parameters, Code.forwarding target k.parameters.length⟩ := by
  obtain ⟨d, key, rfl, -, hconstructors⟩ := h.exists_compile
  have hcompiled : (d.compile key).constructors = d.constructors.map Forwarding.compile := rfl
  rw [hcompiled, hconstructors]
  apply List.ext_getElem?
  intro target
  simp only [Option.map_some, Option.getD_some, Base.forwardings, Base.ofClass, List.getElem?_map,
    List.getElem?_mapIdx, Option.map_map]
  rfl

/-- By their numbers the constructors are those of the base. -/
theorem getElem?_constructors {b : Class} (h : c.BuiltOn (some b)) (target : Nat) :
    c.constructors[target]? = (b.constructors[target]?).map fun k =>
      ⟨k.parameters, Code.forwarding target k.parameters.length⟩ := by
  rw [h.constructors_eq, List.getElem?_mapIdx]

/-- Without a base there are no constructors. -/
theorem constructors_of_none (h : c.BuiltOn none) : c.constructors = [] := by
  obtain ⟨d, key, rfl, -, hconstructors⟩ := h.exists_compile
  have hcompiled : (d.compile key).constructors = d.constructors.map Forwarding.compile := rfl
  rw [hcompiled, hconstructors]
  rfl

/-- The constructors only pass on, so their bodies are sound. -/
theorem constructorsSound (h : c.BuiltOn base) : c.ConstructorsSound := by
  intro k hk
  cases base with
  | none =>
    rw [h.constructors_of_none] at hk
    cases hk
  | some b =>
    rw [h.constructors_eq] at hk
    obtain ⟨target, htarget, rfl⟩ := List.mem_mapIdx.mp hk
    exact Code.soundIn_forwarding h.parent_eq (List.getElem?_eq_getElem htarget)

end Class.BuiltOn

end ClassSynthesis
