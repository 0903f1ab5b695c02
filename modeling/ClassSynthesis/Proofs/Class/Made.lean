import ClassSynthesis.Proofs.Class.Built
import ClassSynthesis.Proofs.Class.Declared

/-!
# Classes that can come about

Classes come from declarations and from builders, on top of parents and bases that came about in the
same way, in any registries. All of them are well formed: their layouts are in order, the bodies of
their constructors are sound, and a class without constructors has a parent that can be constructed
without arguments, if the parent has constructors at all.
-/

namespace ClassSynthesis

namespace Class

/-- The classes that declarations and builders make, one on top of the other. -/
inductive Made : Class → Prop
  /-- By a declaration, in any registry, whose parent was made before. -/
  | declared {d : Declaration} {r left : Registry} {c : Class}
      (hparent : ∀ parent, d.parent = some parent → Made parent)
      (h : Registry.declare d r = .ok c left) : Made c
  /-- By a builder, whose base was made before. -/
  | built {base : Option Class} {c : Class} (hbase : ∀ b, base = some b → Made b)
      (h : c.BuiltOn base) : Made c

/-- The class itself is well formed, given its parent. -/
structure WellFormed (c : Class) : Prop where
  /-- Its slots are those of the parent and one for each field and each property. -/
  layout : c.LaidOut
  /-- Its constructors refer only to what is there. -/
  constructors : c.ConstructorsSound
  /-- Without constructors of its own it can do with the parent. -/
  implicit : c.constructors = [] → ∀ parent, c.parent = some parent →
    parent.constructors = [] ∨ ∃ k ∈ parent.constructors, k.parameters = []

/-- The class and all its ancestors are well formed. -/
def Sound (c : Class) : Prop := ∀ d ∈ c.lineage, d.WellFormed

namespace Sound

variable {c : Class}

theorem own (h : c.Sound) : c.WellFormed := h c (mem_lineage_self c)

theorem of_mem (h : c.Sound) {d : Class} (hd : d ∈ c.lineage) : d.Sound :=
  fun e he => h e (mem_lineage_trans hd he)

theorem parent (h : c.Sound) {parent : Class} (hparent : c.parent = some parent) : parent.Sound :=
  h.of_mem (mem_lineage_of_parent hparent (mem_lineage_self parent))

theorem formed (h : c.Sound) : c.Formed := fun d hd => (h d hd).layout

/-- A well-formed class on top of a sound parent is sound. -/
theorem of_parent (hown : c.WellFormed)
    (hparent : ∀ parent, c.parent = some parent → parent.Sound) : c.Sound :=
  forall_lineage hown hparent

end Sound

/-- The parent of a declared class is the declared one. -/
theorem parent_of_declare {d : Declaration} {r left : Registry} {c : Class}
    (h : Registry.declare d r = .ok c left) : c.parent = d.parent := by
  obtain ⟨key, container, hc⟩ := Registry.declare_eq_ok h
  obtain ⟨base, constructors, -, -, rfl⟩ := Declaration.compile_eq_ok hc
  simp

/-- Whatever the parent, a declared class is laid out on top of it. -/
theorem laidOut_of_declare {d : Declaration} {r left : Registry} {c : Class}
    (h : Registry.declare d r = .ok c left) : c.LaidOut := by
  obtain ⟨key, container, hc⟩ := Registry.declare_eq_ok h
  exact Declaration.laidOut_of_compile hc

/-- A declared class is well formed if its parent is sound. -/
theorem wellFormed_of_declare {d : Declaration} {r left : Registry} {c : Class}
    (hparent : ∀ parent, d.parent = some parent → parent.Sound)
    (h : Registry.declare d r = .ok c left) : c.WellFormed := by
  obtain ⟨key, container, hc⟩ := Registry.declare_eq_ok h
  obtain ⟨base, constructors, hbase, hconstructors, rfl⟩ := Declaration.compile_eq_ok hc
  have hmembers := d.laidOut_members key container
  have hformed : ∀ parent, (d.members key container).parent = some parent → parent.Formed := by
    intro parent hp
    rw [Declaration.parent_members] at hp
    exact (hparent parent hp).formed
  constructor
  · exact laidOut_of_declare h
  · intro k hk
    obtain ⟨declared, -, hcompiled⟩ := exists_of_mapM_eq_ok hconstructors hk
    have hsound : k.code.SoundIn (d.members key container) k.parameters.length := by
      refine ConstructorDecl.soundIn_compile hmembers hformed ?_ hcompiled
      rintro target rfl
      rw [Declaration.parent_members]
      exact Declaration.exists_of_baseConstructor hbase
    exact hsound.congr rfl (parent_mapOwn _ _)
  · rintro - parent hp
    rw [parent_mapOwn, Declaration.parent_members] at hp
    exact Declaration.parent_of_baseConstructor hbase hp

/-- A built class is well formed, and needs no more than its base to be constructed. -/
theorem BuiltOn.wellFormed {base : Option Class} {c : Class} (h : c.BuiltOn base) :
    c.WellFormed where
  layout := h.laidOut
  constructors := h.constructorsSound
  implicit := by
    intro hnone parent hparent
    rw [h.parent_eq] at hparent
    subst hparent
    rw [h.constructors_eq, List.mapIdx_eq_nil_iff] at hnone
    exact .inl hnone

namespace Made

variable {c : Class}

/-- Every class that can come about is well formed, and so are all its ancestors. -/
theorem sound (h : c.Made) : c.Sound := by
  induction h with
  | @declared d r left c hparent h ih =>
    refine .of_parent (wellFormed_of_declare ih h) ?_
    intro parent hp
    exact ih parent (parent_of_declare h ▸ hp)
  | @built base c hbase h ih =>
    refine .of_parent h.wellFormed ?_
    intro parent hp
    exact ih parent (h.parent_eq ▸ hp)

end Made

end Class

end ClassSynthesis
