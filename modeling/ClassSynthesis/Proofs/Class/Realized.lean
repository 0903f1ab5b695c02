import ClassSynthesis.Proofs.Class.Made
import ClassSynthesis.Proofs.Class.Members
import ClassSynthesis.Proofs.Draft.Sealing

/-!
# Classes of declarations and drafts

A draft without a builder can be made to show anything before it is realized: properties with equal
names, slots with any names, constructors that pass their arguments on to nowhere, another base.
None of this reaches the layout, since compilation gives each property a slot of its own. So layouts
are in order for all classes that are declared or realized on top of each other, even where their
constructors are not sound.
-/

namespace ClassSynthesis

/-- What a builder builds is what its draft is realized to. -/
theorem Builder.realize_of_build {b : Builder} {r : Registry} {c : Class}
    (h : outcomeOf (build (b, r)) = .ok c) : outcomeOf (Draft.realize (b.draft, r)) = .ok c := by
  unfold build at h
  by_cases hbuilt : b.isBuilt
  · simp [hbuilt, outcomeOf] at h
  · simp only [hbuilt, Bool.false_eq_true, ite_false] at h
    cases hrun : Draft.realize (b.draft, r) <;> rwa [hrun] at h

namespace Class

/-- The classes that are declared or realized, one on top of the other, from any drafts. -/
inductive Realized : Class → Prop
  /-- By a declaration, in any registry, whose parent came about before. -/
  | declared {d : Declaration} {r left : Registry} {c : Class}
      (hparent : ∀ parent, d.parent = some parent → Realized parent)
      (h : Registry.declare d r = .ok c left) : Realized c
  /-- By a draft, whatever it shows, on top of a class that came about before. -/
  | drafted {d : Draft} {r : Registry} {c : Class}
      (hbase : ∀ base, d.baseClass = some base → Realized base)
      (h : outcomeOf (Draft.realize (d, r)) = .ok c) : Realized c

/-- A class that is laid out on top of a parent whose layouts are in order. -/
theorem Formed.of_parent {c : Class} (hown : c.LaidOut)
    (hparent : ∀ parent, c.parent = some parent → parent.Formed) : c.Formed :=
  forall_lineage hown hparent

namespace Realized

variable {c : Class}

/-- Layouts are in order. -/
theorem formed (h : c.Realized) : c.Formed := by
  induction h with
  | @declared d r left c hparent h ih =>
    refine .of_parent (laidOut_of_declare h) ?_
    intro parent hp
    exact ih parent (parent_of_declare h ▸ hp)
  | @drafted d r c hbase h ih =>
    obtain rfl := Draft.realize_eq_ok h
    refine .of_parent (d.laidOut_compile _) ?_
    intro base hb
    rw [Draft.parent_compile] at hb
    exact ih base hb

end Realized

/-- The classes that declarations and builders make are among them. -/
theorem Made.realized {c : Class} (h : c.Made) : c.Realized := by
  induction h with
  | declared hparent h ih => exact .declared ih h
  | @built base c hbase h ih =>
    obtain ⟨b, r, -, hbuild⟩ := h.exists_builder
    refine .drafted ?_ (Builder.realize_of_build hbuild)
    intro above habove
    rw [← b.draft.parent_compile r.allocate.1, ← Builder.build_eq_ok hbuild, h.parent_eq] at habove
    exact ih above habove

end Class

end ClassSynthesis
