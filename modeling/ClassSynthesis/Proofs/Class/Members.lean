import ClassSynthesis.Proofs.Class.Formation
import Mathlib.Data.List.Nodup

/-!
# Members and their slots

An instance stores all members of its class and of the ancestors of its class, also those that can
no longer be reached by name since a member of a more derived class hides them. Where layouts are
in order, these members and the slots are the same in number and in order. So a slot tells its
member, and two members never share one, whatever their names and the names of their slots are.
-/

namespace ClassSynthesis

/-- A member that a class declares. -/
inductive Member where
  /-- A field. -/
  | field (of : Field)
  /-- A property. -/
  | property (of : Property)

namespace Member

/-- The name of a member. -/
def name : Member → String
  | field f => f.name
  | property p => p.name

/-- The slot that a member says it is stored in. -/
def slot? : Member → Option Nat
  | field f => some f.slot
  | property p => p.slot

end Member

/-- The members that a layer declares, fields first. -/
def Layer.declared (layer : Layer) : List Member :=
  layer.fields.map .field ++ layer.properties.map .property

/-- By their names and slots, these are the members of the layer. -/
theorem Layer.map_declared (layer : Layer) :
    (layer.declared.map fun m => (m.name, m.slot?)) = layer.members := by
  simp [declared, members, Function.comp_def, Member.name, Member.slot?]

namespace Class

/-- All members that an instance of the class stores: those of its ancestors, from the root down,
and those of the class itself. -/
def storedMembers (c : Class) : List Member := c.layers.reverse.flatMap (·.declared)

/-- The slot of the member that a name stands for: the property that is found, or else the field. -/
def slotOf? (c : Class) (name : String) : Option Nat :=
  match c.property? name with
  | some (_, p) => p.slot
  | none => (c.field? name).map (·.slot)

theorem storedMembers_of_root {c : Class} (h : c.parent = none) :
    c.storedMembers = c.own.declared := by
  rcases c with ⟨own, _ | ⟨parent, ancestors⟩⟩
  · simp [storedMembers, layers]
  · cases h

/-- The members of the parent come first. -/
theorem storedMembers_of_parent {c parent : Class} (h : c.parent = some parent) :
    c.storedMembers = parent.storedMembers ++ c.own.declared := by
  rcases c with ⟨own, _ | ⟨above, ancestors⟩⟩
  · cases h
  · cases h
    simp [storedMembers, layers]

/-- What a class of the lineage declares is stored. -/
theorem mem_storedMembers {c owner : Class} (howner : owner ∈ c.lineage) {m : Member}
    (hm : m ∈ owner.own.declared) : m ∈ c.storedMembers := by
  refine List.mem_flatMap.mpr ⟨owner.own, ?_, hm⟩
  rw [List.mem_reverse, ← map_own_lineage]
  exact List.mem_map_of_mem howner

/-- A property that is found is stored. -/
theorem property_mem_storedMembers {c owner : Class} {name : String} {p : Property}
    (h : c.property? name = some (owner, p)) : .property p ∈ c.storedMembers ∧ p.name = name := by
  obtain ⟨howner, hfound⟩ := mem_of_property? h
  obtain ⟨hname, hmem⟩ := Layer.name_of_property? hfound
  exact ⟨mem_storedMembers howner (List.mem_append_right _ (List.mem_map_of_mem hmem)), hname⟩

/-- A field that is found is stored. -/
theorem field_mem_storedMembers {c : Class} {name : String} {f : Field}
    (h : c.field? name = some f) : .field f ∈ c.storedMembers ∧ f.name = name := by
  obtain ⟨owner, howner, hfound⟩ := exists_of_field? h
  obtain ⟨hname, hmem⟩ := Layer.name_of_field? hfound
  exact ⟨mem_storedMembers howner (List.mem_append_left _ (List.mem_map_of_mem hmem)), hname⟩

/-- The slot of a name is the slot of a stored member of that name. -/
theorem exists_member_of_slotOf? {c : Class} {name : String} {slot : Nat}
    (h : c.slotOf? name = some slot) :
    ∃ m ∈ c.storedMembers, m.name = name ∧ m.slot? = some slot := by
  unfold slotOf? at h
  cases hp : c.property? name with
  | some found =>
    obtain ⟨owner, p⟩ := found
    rw [hp] at h
    obtain ⟨hmem, hname⟩ := property_mem_storedMembers hp
    exact ⟨_, hmem, hname, h⟩
  | none =>
    rw [hp] at h
    obtain ⟨f, hf, hslot⟩ := Option.map_eq_some_iff.mp h
    obtain ⟨hmem, hname⟩ := field_mem_storedMembers hf
    exact ⟨_, hmem, hname, congrArg some hslot⟩

/-- The members that a class declares itself are stored behind the inherited slots, in order. -/
theorem LaidOut.map_slot?_declared {c : Class} (h : c.LaidOut) :
    c.own.declared.map (·.slot?) =
      (List.range' c.inherited.length (c.slots.length - c.inherited.length)).map some := by
  rw [← h.places, ← c.own.map_declared, List.map_map]
  rfl

namespace Formed

variable {c : Class} {m : Member} {slot : Nat}

/-- Stored members and slots are the same in number and in order. -/
theorem places (h : c.Formed) :
    c.storedMembers.map (·.slot?) = (List.range c.slotCount).map some := by
  induction c using parentInduction with
  | root c hroot =>
    have hown := h.own.map_slot?_declared
    rw [inherited, hroot] at hown
    rw [storedMembers_of_root hroot, hown, slotCount, List.range_eq_range']
    rfl
  | derived c parent hparent ih =>
    have hown := h.own.map_slot?_declared
    have hle := h.own.inherits.length_le
    rw [inherited, hparent] at hown hle
    simp only [Option.map_some, Option.getD_some] at hown hle
    rw [storedMembers_of_parent hparent, List.map_append, hown, ih (h.parent hparent),
      ← List.map_append, slotCount, slotCount, List.range_eq_range', List.range_eq_range']
    have hjoin := List.range'_append_1 (s := 0) (m := parent.slots.length)
      (n := c.slots.length - parent.slots.length)
    rw [Nat.zero_add, Nat.add_sub_of_le hle] at hjoin
    rw [hjoin]

/-- No slot belongs to two members. -/
theorem nodup_slots (h : c.Formed) : (c.storedMembers.map (·.slot?)).Nodup := by
  rw [h.places]
  exact List.nodup_range.map fun _ _ => Option.some.inj

/-- There are as many stored members as slots. -/
theorem length_storedMembers (h : c.Formed) : c.storedMembers.length = c.slotCount := by
  simpa using congrArg List.length h.places

/-- A slot tells the member that is stored in it. -/
theorem member_at (h : c.Formed) (hm : m ∈ c.storedMembers) (hslot : m.slot? = some slot) :
    c.storedMembers[slot]? = some m := by
  obtain ⟨index, hindex⟩ := List.getElem?_of_mem hm
  have hplace := congrArg (·[index]?) h.places
  simp only [List.getElem?_map, hindex, Option.map_some, hslot] at hplace
  obtain ⟨place, hrange, hsame⟩ := Option.map_eq_some_iff.mp hplace.symm
  obtain ⟨hlt, rfl⟩ := List.getElem?_eq_some_iff.mp hrange
  rw [List.getElem_range] at hsame
  exact Option.some.inj hsame ▸ hindex

/-- Members with one slot are one member. -/
theorem eq_of_slot? (h : c.Formed) {other : Member} (hm : m ∈ c.storedMembers)
    (hother : other ∈ c.storedMembers) (hslot : m.slot? = some slot)
    (hsame : other.slot? = some slot) : m = other :=
  Option.some.inj ((h.member_at hm hslot).symm.trans (h.member_at hother hsame))

/-- Names that stand for one slot are one name. -/
theorem slotOf?_inj (h : c.Formed) {name other : String} (hslot : c.slotOf? name = some slot)
    (hother : c.slotOf? other = some slot) : name = other := by
  obtain ⟨m, hm, rfl, hmslot⟩ := exists_member_of_slotOf? hslot
  obtain ⟨n, hn, rfl, hnslot⟩ := exists_member_of_slotOf? hother
  rw [h.eq_of_slot? hm hn hmslot hnslot]

/-- The slot of a member is one of the layout. -/
theorem lt_of_slot? (h : c.Formed) (hm : m ∈ c.storedMembers) (hslot : m.slot? = some slot) :
    slot < c.slotCount :=
  h.length_storedMembers ▸ (List.getElem?_eq_some_iff.mp (h.member_at hm hslot)).1

/-- A field that a property of the same name hides is not the slot of any name. -/
theorem slotOf?_ne_of_hidden (h : c.Formed) {name : String} {f : Field}
    (hhidden : (c.property? name).isSome) (hf : c.field? name = some f) (other : String) :
    c.slotOf? other ≠ some f.slot := by
  intro hother
  obtain ⟨⟨owner, p⟩, hp⟩ := Option.isSome_iff_exists.mp hhidden
  obtain ⟨hfield, hname⟩ := field_mem_storedMembers hf
  obtain ⟨m, hm, rfl, hslot⟩ := exists_member_of_slotOf? hother
  obtain rfl := h.eq_of_slot? hfield hm rfl hslot
  -- The slot would have to be that of the property, which is another member.
  have hmember : (Member.field f).name = name := hname
  rw [hmember, slotOf?, hp] at hother
  have hsame := h.eq_of_slot? hfield (property_mem_storedMembers hp).1 rfl hother
  cases hsame

end Formed

end Class

end ClassSynthesis
