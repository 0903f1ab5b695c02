import ClassSynthesis.Instance.Access

/-!
# Going up a lineage

A class is its own layer on top of its parent, so what is true of all classes is proved first for
those without a parent and then from a parent for the classes that derive from it. Code of a class
sees nothing above it but the parent, and the search for an implicit constructor goes from parent
to parent.
-/

namespace ClassSynthesis

/-- An entry of a list is an entry of each list that begins with it. -/
theorem getElem?_longer {α : Type} {short long : List α} (h : short <+: long) {index : Nat}
    {a : α} (ha : short[index]? = some a) : long[index]? = some a := by
  have hlt := (List.getElem?_eq_some_iff.mp ha).1
  rw [List.prefix_iff_getElem?.mp h index hlt, ← ha]
  exact (List.getElem?_eq_getElem hlt).symm

namespace Class

/-- What holds of classes without a parent, and of a class if it holds of the parent, holds of
every class. -/
@[elab_as_elim]
theorem parentInduction {motive : Class → Prop} (root : ∀ c, c.parent = none → motive c)
    (derived : ∀ c parent, c.parent = some parent → motive parent → motive c) (c : Class) :
    motive c := by
  obtain ⟨own, ancestors⟩ := c
  induction ancestors generalizing own with
  | nil => exact root _ rfl
  | cons parent ancestors ih => exact derived _ ⟨parent, ancestors⟩ rfl (ih parent)

theorem lineage_of_root {c : Class} (h : c.parent = none) : c.lineage = [c] := by
  rw [lineage_eq, h]
  rfl

theorem lineage_of_parent {c parent : Class} (h : c.parent = some parent) :
    c.lineage = c :: parent.lineage := by
  rw [lineage_eq, h]
  rfl

@[simp] theorem mem_lineage_self (c : Class) : c ∈ c.lineage := by
  rw [lineage_eq]
  exact List.mem_cons_self

/-- The ancestors of a parent are ancestors. -/
theorem mem_lineage_of_parent {c parent d : Class} (h : c.parent = some parent)
    (hd : d ∈ parent.lineage) : d ∈ c.lineage := by
  rw [lineage_of_parent h]
  exact List.mem_cons_of_mem c hd

/-- Who is in a lineage has all of its own ancestors there. -/
theorem mem_lineage_trans {c d e : Class} (hd : d ∈ c.lineage) (he : e ∈ d.lineage) :
    e ∈ c.lineage := by
  induction c using parentInduction with
  | root c h =>
    rw [lineage_of_root h, List.mem_singleton] at hd
    exact hd ▸ he
  | derived c parent h ih =>
    rw [lineage_of_parent h, List.mem_cons] at hd
    rcases hd with rfl | hd
    · exact he
    · exact mem_lineage_of_parent h (ih hd)

/-- What holds of a class and of all in the lineage of its parent holds of all in its own. -/
theorem forall_lineage {P : Class → Prop} {c : Class} (hown : P c)
    (hparent : ∀ parent, c.parent = some parent → ∀ d ∈ parent.lineage, P d) :
    ∀ d ∈ c.lineage, P d := by
  intro d hd
  cases hp : c.parent with
  | none =>
    rw [lineage_of_root hp, List.mem_singleton] at hd
    exact hd ▸ hown
  | some parent =>
    rw [lineage_of_parent hp, List.mem_cons] at hd
    rcases hd with rfl | hd
    · exact hown
    · exact hparent parent hp d hd

/-- The parent as the code of a class sees it. -/
def above (c : Class) : Option Frame.Parent :=
  c.parent.map fun parent => ⟨parent.own, execute parent.ancestors⟩

/-- Code of a class runs below the parent. -/
theorem execute_eq (c : Class) (frame : Frame) (code : Code) :
    execute c.ancestors frame code = frame.run c.above code [] := by
  rcases c with ⟨own, _ | ⟨parent, ancestors⟩⟩ <;> rfl

/-- Above a root there is no constructor to run. -/
theorem runImplicit_of_root {c : Class} (h : c.parent = none) (i : Instance) :
    runImplicit c.ancestors i = .ok () i := by
  rcases c with ⟨own, _ | ⟨parent, ancestors⟩⟩
  · rfl
  · cases h

/-- The search for an implicit constructor starts at the parent. -/
theorem runImplicit_of_parent {c parent : Class} (h : c.parent = some parent) :
    runImplicit c.ancestors = runImplicit parent.layers := by
  rcases c with ⟨own, _ | ⟨above, ancestors⟩⟩
  · cases h
  · cases h
    rfl

/-- A parent without constructors is passed over. -/
theorem runImplicit_layers_of_isEmpty {c : Class} (h : c.constructors.isEmpty) :
    runImplicit c.layers = runImplicit c.ancestors := by
  rw [layers, runImplicit, if_pos h]

end Class

end ClassSynthesis
