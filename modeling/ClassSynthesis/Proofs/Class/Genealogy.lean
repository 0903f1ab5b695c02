import ClassSynthesis.Proofs.Class.Lineage
import Mathlib.Data.List.Nodup

/-!
# Genealogies

Classes come about one after the other. Each derives from one that came about before it, or from
none, and has an identity that no earlier one has. That a class is a subclass of another is told
from identities alone; among the classes of a genealogy it means that the one is an ancestor of the
other. So the relation is an order, and the classes above one class form a chain.
-/

namespace ClassSynthesis

namespace Class

/-- A class has one ancestor more than its parent. -/
theorem length_ancestors_of_parent {c parent : Class} (h : c.parent = some parent) :
    c.ancestors.length = parent.ancestors.length + 1 := by
  rcases c with ⟨own, _ | ⟨above, ancestors⟩⟩
  · cases h
  · cases h
    rfl

/-- Everyone else in a lineage has fewer ancestors than the one who has the lineage. -/
theorem length_ancestors_of_mem {c d : Class} (h : d ∈ c.lineage) :
    d = c ∨ d.ancestors.length < c.ancestors.length := by
  induction c using parentInduction with
  | root c hroot =>
    rw [lineage_of_root hroot, List.mem_singleton] at h
    exact .inl h
  | derived c parent hparent ih =>
    rw [lineage_of_parent hparent, List.mem_cons] at h
    have hlength := length_ancestors_of_parent hparent
    rcases h with rfl | h
    · exact .inl rfl
    · rcases ih h with rfl | hlt
      · right
        omega
      · right
        omega

/-- No two classes are ancestors of each other. -/
theorem eq_of_mem_lineage {c d : Class} (hd : d ∈ c.lineage) (hc : c ∈ d.lineage) : c = d := by
  rcases length_ancestors_of_mem hd with rfl | hlt
  · rfl
  · rcases length_ancestors_of_mem hc with rfl | hlt'
    · rfl
    · omega

/-- Of two classes in one lineage, one is in the lineage of the other. -/
theorem mem_lineage_or_mem_lineage {c d e : Class} (hd : d ∈ c.lineage) (he : e ∈ c.lineage) :
    e ∈ d.lineage ∨ d ∈ e.lineage := by
  induction c using parentInduction with
  | root c hroot =>
    rw [lineage_of_root hroot, List.mem_singleton] at hd he
    subst hd he
    exact .inl (mem_lineage_self _)
  | derived c parent hparent ih =>
    have hd' := hd
    have he' := he
    rw [lineage_of_parent hparent, List.mem_cons] at hd' he'
    rcases hd' with rfl | hd'
    · exact .inl he
    · rcases he' with rfl | he'
      · exact .inr hd
      · exact ih hd' he'

end Class

/-- Classes in the order in which they came about. -/
inductive Genealogy : List Class → Prop
  /-- At first there are none. -/
  | nil : Genealogy []
  /-- One more class, on top of one that is there or of none, with an identity of its own. -/
  | snoc {made : List Class} {c : Class} (h : Genealogy made)
      (hparent : ∀ parent, c.parent = some parent → parent ∈ made)
      (hnew : ∀ d ∈ made, d.key ≠ c.key) : Genealogy (made ++ [c])

namespace Genealogy

variable {made : List Class} {c d e : Class}

/-- The ancestors of a class came about before it. -/
theorem mem_of_mem_lineage (h : Genealogy made) (hc : c ∈ made) (hd : d ∈ c.lineage) :
    d ∈ made := by
  induction h generalizing c with
  | nil => cases hc
  | @snoc made last h hparent hnew ih =>
    rw [List.mem_append, List.mem_singleton] at hc
    rcases hc with hc | rfl
    · exact List.mem_append_left _ (ih hc hd)
    · cases hp : c.parent with
      | none =>
        rw [Class.lineage_of_root hp, List.mem_singleton] at hd
        exact hd ▸ List.mem_append_right _ List.mem_cons_self
      | some parent =>
        rw [Class.lineage_of_parent hp, List.mem_cons] at hd
        rcases hd with rfl | hd
        · exact List.mem_append_right _ List.mem_cons_self
        · exact List.mem_append_left _ (ih (hparent parent hp) hd)

/-- No identity is given to two classes. -/
theorem nodup_keys (h : Genealogy made) : (made.map (·.key)).Nodup := by
  induction h with
  | nil => exact List.nodup_nil
  | @snoc made last h hparent hnew ih =>
    rw [List.map_append, List.nodup_append]
    refine ⟨ih, List.pairwise_singleton _ _, ?_⟩
    simpa using hnew

/-- The last class has an identity that no earlier one has. -/
theorem key_ne_last (h : Genealogy (made ++ [c])) (hd : d ∈ made) : c.key ≠ d.key := by
  have hkeys := h.nodup_keys
  rw [List.map_append, List.nodup_append] at hkeys
  exact (hkeys.2.2 d.key (List.mem_map_of_mem hd) c.key List.mem_cons_self).symm

/-- No two classes are the same. -/
theorem pairwise_not_same (h : Genealogy made) : made.Pairwise fun c d => c.same d = false := by
  have hkeys := List.pairwise_map.mp h.nodup_keys
  refine hkeys.imp ?_
  intro c d hne
  simpa [Class.same] using hne

/-- The identity tells the class. -/
theorem eq_of_key (h : Genealogy made) (hc : c ∈ made) (hd : d ∈ made) (hkey : c.key = d.key) :
    c = d := List.inj_on_of_nodup_map h.nodup_keys hc hd hkey

/-- A subclass is one that has the other class among its ancestors. -/
theorem isSubclassOf_iff (h : Genealogy made) (hc : c ∈ made) (hd : d ∈ made) :
    c.isSubclassOf d ↔ d ∈ c.lineage := by
  rw [Class.isSubclassOf, Class.derivesFrom_iff]
  constructor
  · rintro ⟨e, he, hkey⟩
    exact h.eq_of_key (h.mem_of_mem_lineage hc he) hd hkey ▸ he
  · intro hmem
    exact ⟨d, hmem, rfl⟩

theorem isSubclassOf_trans (h : Genealogy made) (hc : c ∈ made) (hd : d ∈ made) (he : e ∈ made)
    (hcd : c.isSubclassOf d) (hde : d.isSubclassOf e) : c.isSubclassOf e := by
  rw [h.isSubclassOf_iff hc hd] at hcd
  rw [h.isSubclassOf_iff hd he] at hde
  rw [h.isSubclassOf_iff hc he]
  exact Class.mem_lineage_trans hcd hde

theorem isSubclassOf_antisymm (h : Genealogy made) (hc : c ∈ made) (hd : d ∈ made)
    (hcd : c.isSubclassOf d) (hdc : d.isSubclassOf c) : c = d := by
  rw [h.isSubclassOf_iff hc hd] at hcd
  rw [h.isSubclassOf_iff hd hc] at hdc
  exact Class.eq_of_mem_lineage hcd hdc

/-- The superclasses of a class form a chain. -/
theorem isSubclassOf_linear (h : Genealogy made) (hc : c ∈ made) (hd : d ∈ made) (he : e ∈ made)
    (hcd : c.isSubclassOf d) (hce : c.isSubclassOf e) : d.isSubclassOf e ∨ e.isSubclassOf d := by
  rw [h.isSubclassOf_iff hc hd] at hcd
  rw [h.isSubclassOf_iff hc he] at hce
  rw [h.isSubclassOf_iff hd he, h.isSubclassOf_iff he hd]
  exact Class.mem_lineage_or_mem_lineage hcd hce

/-- No two classes with one parent are subclasses of each other. -/
theorem eq_of_isSubclassOf_of_parent_eq (h : Genealogy made) (hc : c ∈ made) (hd : d ∈ made)
    (hparents : c.parent = d.parent) (hcd : c.isSubclassOf d) : c = d := by
  rw [h.isSubclassOf_iff hc hd] at hcd
  cases hp : c.parent with
  | none =>
    rw [Class.lineage_of_root hp, List.mem_singleton] at hcd
    exact hcd.symm
  | some parent =>
    have hlength := Class.length_ancestors_of_parent (hparents.symm.trans hp)
    rw [Class.lineage_of_parent hp, List.mem_cons] at hcd
    rcases hcd with rfl | hcd
    · rfl
    · rcases Class.length_ancestors_of_mem hcd with rfl | hlt <;> omega

/-- The type of a class accepts what the type of a subclass accepts, if that is an object of a class
of the genealogy. -/
theorem accepts_of_isSubclassOf (h : Genealogy made) (hc : c ∈ made) (hd : d ∈ made)
    (hdc : d.isSubclassOf c) {value : Value}
    (hvalue : ∀ identity i, value = .object identity i → i.cls ∈ made)
    (haccepts : d.ty.accepts value) : c.ty.accepts value := by
  cases value with
  | object identity i =>
    exact h.isSubclassOf_trans (hvalue identity i rfl) hd hc haccepts hdc
  | null => rfl
  | bool b => cases haccepts
  | int i => cases haccepts
  | float x => cases haccepts
  | str text => cases haccepts

end Genealogy

end ClassSynthesis
