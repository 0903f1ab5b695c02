import ClassSynthesis.Class.Layout
import ClassSynthesis.Proofs.Class.Lineage

/-!
# Layouts in order

A layout is in order if it begins with the slots of the parent and has one more slot for each field
and each property that the class itself declares, in this order, with the type of that member. The
accessors of a property then read and write the slot of that property. Adding fields and
properties keeps a layout in order. Where it is in order all the way up, each slot belongs to one
member, so that slots can be labelled with the names of their members.
-/

namespace ClassSynthesis

/-- A property is stored in a slot: it names the slot, has the type of the slot, and its accessors
are methods of the layer, with the bodies that read and write the slot. -/
structure Property.StoredAt (p : Property) (layer : Layer) (slot : Nat) : Prop where
  /-- The slot that the property names. -/
  place : p.slot = some slot
  /-- The type of the slot is the one of the property. -/
  ty : (layer.slots[slot]?).map (·.ty) = some p.ty
  /-- There is a getter, which loads the slot and returns it. -/
  getter : ∃ index accessor, p.getter = some index ∧ layer.methods[index]? = some accessor ∧
    accessor.code = [.loadSlot slot, .ret]
  /-- The setter, if there is one, stores its argument into the slot. -/
  setter : ∀ index, p.setter = some index → ∃ accessor, layer.methods[index]? = some accessor ∧
    accessor.code = [.loadArg 0, .storeSlot slot, .ret]

namespace Layer

/-- The members that a layer declares with their slots, fields first. -/
def members (layer : Layer) : List (String × Option Nat) :=
  layer.fields.map (fun f => (f.name, some f.slot)) ++
    layer.properties.map fun p => (p.name, p.slot)

/-- The layout of a layer is in order, on top of the inherited slots. -/
structure LaidOut (layer : Layer) (inherited : List Slot) : Prop where
  /-- The inherited slots come first. -/
  inherits : inherited <+: layer.slots
  /-- Fields and properties occupy the slots that follow, one each and in this order. -/
  places : layer.members.map (·.2) =
    (List.range' inherited.length (layer.slots.length - inherited.length)).map some
  /-- The slot of a field has the type of the field. -/
  fields : ∀ f ∈ layer.fields, (layer.slots[f.slot]?).map (·.ty) = some f.ty
  /-- Each property is stored in a slot. -/
  properties : ∀ p ∈ layer.properties, ∃ slot, p.StoredAt layer slot

end Layer

/-- A slot that has a type is there. -/
theorem lt_length_of_typed {slots : List Slot} {index : Nat} {ty : Ty}
    (h : (slots[index]?).map (·.ty) = some ty) : index < slots.length := by
  obtain ⟨slot, hslot, -⟩ := Option.map_eq_some_iff.mp h
  exact (List.getElem?_eq_some_iff.mp hslot).1

/-- What is true of a slot of a layout is true of it on each longer layout. -/
private theorem map_getElem?_longer {α β : Type} {short long : List α} (h : short <+: long)
    {f : α → β} {index : Nat} {b : β} (hb : (short[index]?).map f = some b) :
    (long[index]?).map f = some b := by
  obtain ⟨a, ha, hfa⟩ := Option.map_eq_some_iff.mp hb
  rw [getElem?_longer h ha, Option.map_some, hfa]

/-- A property stays where it is when slots and methods are added behind it. -/
theorem Property.StoredAt.mono {p : Property} {layer larger : Layer} {slot : Nat}
    (h : p.StoredAt layer slot) (hslots : layer.slots <+: larger.slots)
    (hmethods : layer.methods <+: larger.methods) : p.StoredAt larger slot where
  place := h.place
  ty := map_getElem?_longer hslots h.ty
  getter := by
    obtain ⟨index, accessor, hindex, hmethod, hcode⟩ := h.getter
    exact ⟨index, accessor, hindex, getElem?_longer hmethods hmethod, hcode⟩
  setter := by
    intro index hindex
    obtain ⟨accessor, hmethod, hcode⟩ := h.setter index hindex
    exact ⟨accessor, getElem?_longer hmethods hmethod, hcode⟩

namespace Layer

variable {layer : Layer} {inherited : List Slot}

/-- The numbers of the slots that follow the inherited ones, when one is added. -/
private theorem range'_add_slot (h : inherited <+: layer.slots) :
    List.range' inherited.length (layer.slots.length + 1 - inherited.length) =
      List.range' inherited.length (layer.slots.length - inherited.length) ++
        [layer.slots.length] := by
  have hle := h.length_le
  rw [Nat.sub_add_comm hle, List.range'_concat, Nat.one_mul, Nat.add_sub_of_le hle]

/-- A field that is added before all properties keeps a layout in order. -/
theorem LaidOut.addField (h : layer.LaidOut inherited) (hnone : layer.properties = [])
    (name : String) (ty : Ty) (isPublic isReadonly : Bool) :
    (layer.addField name ty isPublic isReadonly).LaidOut inherited where
  inherits := h.inherits.trans (List.prefix_append _ _)
  places := by
    have hplaces := h.places
    simp only [members, hnone, List.map_nil, List.append_nil, List.map_map] at hplaces
    simp only [members, Layer.addField, hnone, List.map_append, List.map_map, List.map_cons,
      List.map_nil, List.append_nil, List.length_append, List.length_singleton]
    rw [range'_add_slot h.inherits, List.map_append, ← hplaces]
    rfl
  fields := by
    intro f hf
    rw [Layer.addField, List.mem_append, List.mem_singleton] at hf
    rcases hf with hf | rfl
    · exact map_getElem?_longer (List.prefix_append _ _) (h.fields f hf)
    · simp
  properties := by
    intro p hp
    rw [properties_addField, hnone] at hp
    cases hp

/-- Every property that is added keeps a layout in order. -/
theorem LaidOut.addProperty (h : layer.LaidOut inherited) (name slotName : String) (ty : Ty)
    (writable : Bool) (attributes : List Attribute) :
    (layer.addProperty name slotName ty writable attributes).LaidOut inherited where
  inherits := h.inherits.trans (List.prefix_append _ _)
  places := by
    have hplaces := h.places
    rw [members, List.map_append] at hplaces
    rw [members, slots_addProperty, fields_addProperty, Layer.addProperty]
    simp only [List.map_append, List.length_append, List.length_singleton]
    rw [range'_add_slot h.inherits, List.map_append, ← hplaces, List.append_assoc]
    rfl
  fields := fun f hf => map_getElem?_longer (List.prefix_append _ _) (h.fields f hf)
  properties := by
    intro p hp
    rw [Layer.addProperty, List.mem_append, List.mem_singleton] at hp
    rcases hp with hp | rfl
    · obtain ⟨slot, hstored⟩ := h.properties p hp
      exact ⟨slot, hstored.mono (List.prefix_append _ _) (List.prefix_append _ _)⟩
    · refine ⟨layer.slots.length, rfl, by simp, ?_, ?_⟩
      · exact ⟨_, _, rfl, getter_addProperty layer name slotName ty writable attributes, rfl⟩
      · intro index hindex
        cases writable with
        | false => simp at hindex
        | true =>
          obtain rfl : layer.methods.length + 1 = index := by simpa using hindex
          exact ⟨_, setter_addProperty layer name slotName ty attributes, rfl⟩

/-- Only slots, members and methods count for a layout. -/
theorem LaidOut.congr (h : layer.LaidOut inherited) {other : Layer}
    (hslots : other.slots = layer.slots) (hfields : other.fields = layer.fields)
    (hproperties : other.properties = layer.properties)
    (hmethods : other.methods = layer.methods) : other.LaidOut inherited where
  inherits := hslots ▸ h.inherits
  places := by
    rw [members, hslots, hfields, hproperties]
    exact h.places
  fields := by
    rw [hslots, hfields]
    exact h.fields
  properties := by
    intro p hp
    obtain ⟨slot, hstored⟩ := h.properties p (hproperties ▸ hp)
    exact ⟨slot, hstored.mono (hslots ▸ List.prefix_rfl) (hmethods ▸ List.prefix_rfl)⟩

/-- The slot of a declared member is as far behind the inherited slots as the member is behind the
first one. -/
theorem LaidOut.slot_eq (h : layer.LaidOut inherited) {index slot : Nat} {name : String}
    (hmember : layer.members[index]? = some (name, some slot)) :
    slot = inherited.length + index := by
  have hplace := congrArg (·[index]?) h.places
  simp only [List.getElem?_map, hmember, Option.map_some] at hplace
  obtain ⟨other, hother, hsome⟩ := Option.map_eq_some_iff.mp hplace.symm
  obtain ⟨hlt, hvalue⟩ := List.getElem?_eq_some_iff.mp hother
  rw [List.getElem_range', Nat.one_mul] at hvalue
  rw [← Option.some.inj hsome, hvalue]

/-- There are as many members as slots behind the inherited ones. -/
theorem LaidOut.length_members (h : layer.LaidOut inherited) :
    layer.members.length = layer.slots.length - inherited.length := by
  simpa using congrArg List.length h.places

end Layer

namespace Class

/-- The slots that a class gets from its parent. -/
def inherited (c : Class) : List Slot := (c.parent.map slots).getD []

/-- The layout of the class itself is in order. -/
def LaidOut (c : Class) : Prop := c.own.LaidOut c.inherited

/-- The layouts of the class and of all its ancestors are in order. -/
def Formed (c : Class) : Prop := ∀ d ∈ c.lineage, d.LaidOut

/-- A class that declares nothing yet is laid out like its parent. -/
theorem laidOut_empty (key : ClassKey) (name container : String) (visibility : Visibility)
    (kind : ClassKind) (parent : Option Class) :
    (empty key name container visibility kind parent).own.LaidOut
      ((parent.map slots).getD []) where
  inherits := List.prefix_rfl
  places := by simp [empty, Layer.members]
  fields := by simp [empty]
  properties := by simp [empty]

/-- The names of the members that are stored in the slots of a class, slot by slot. -/
def memberNames (c : Class) : List String :=
  c.layers.reverse.flatMap fun layer => layer.members.map (·.1)

theorem memberNames_of_root {c : Class} (h : c.parent = none) :
    c.memberNames = c.own.members.map (·.1) := by
  rcases c with ⟨own, _ | ⟨parent, ancestors⟩⟩
  · simp [memberNames, layers]
  · cases h

/-- The labels of inherited slots are those that the parent gives them. -/
theorem memberNames_of_parent {c parent : Class} (h : c.parent = some parent) :
    c.memberNames = parent.memberNames ++ c.own.members.map (·.1) := by
  rcases c with ⟨own, _ | ⟨above, ancestors⟩⟩
  · cases h
  · cases h
    simp [memberNames, layers]

/-- An ancestor labels its slots as the class does. -/
theorem memberNames_of_mem {c d : Class} (h : d ∈ c.lineage) :
    d.memberNames <+: c.memberNames := by
  induction c using parentInduction with
  | root c hroot =>
    rw [lineage_of_root hroot, List.mem_singleton] at h
    exact h ▸ List.prefix_rfl
  | derived c parent hparent ih =>
    rw [lineage_of_parent hparent, List.mem_cons] at h
    rcases h with rfl | h
    · exact List.prefix_rfl
    · rw [memberNames_of_parent hparent]
      exact (ih h).trans (List.prefix_append _ _)

/-- A property is found on the class of the lineage that it comes with. -/
theorem mem_of_property? {c owner : Class} {name : String} {p : Property}
    (h : c.property? name = some (owner, p)) :
    owner ∈ c.lineage ∧ owner.own.property? name = some p := by
  obtain ⟨d, hd, hfound⟩ := List.exists_of_findSome?_eq_some h
  obtain ⟨q, hq, hpair⟩ := Option.map_eq_some_iff.mp hfound
  obtain ⟨rfl, rfl⟩ := Prod.mk.inj hpair
  exact ⟨hd, hq⟩

/-- A field is found on some class of the lineage. -/
theorem exists_of_field? {c : Class} {name : String} {f : Field} (h : c.field? name = some f) :
    ∃ owner ∈ c.lineage, owner.own.field? name = some f := by
  obtain ⟨layer, hlayer, hfound⟩ := List.exists_of_findSome?_eq_some h
  rw [← map_own_lineage] at hlayer
  obtain ⟨owner, howner, rfl⟩ := List.mem_map.mp hlayer
  exact ⟨owner, howner, hfound⟩

namespace Formed

variable {c : Class}

theorem own (h : c.Formed) : c.LaidOut := h c (mem_lineage_self c)

/-- What is in order up from a class is in order up from each of its ancestors. -/
theorem of_mem (h : c.Formed) {d : Class} (hd : d ∈ c.lineage) : d.Formed :=
  fun e he => h e (mem_lineage_trans hd he)

theorem parent (h : c.Formed) {parent : Class} (hparent : c.parent = some parent) :
    parent.Formed := h.of_mem (mem_lineage_of_parent hparent (mem_lineage_self parent))

/-- The slots of an ancestor come first. -/
theorem slots_of_mem (h : c.Formed) {d : Class} (hd : d ∈ c.lineage) : d.slots <+: c.slots := by
  induction c using parentInduction with
  | root c hroot =>
    rw [lineage_of_root hroot, List.mem_singleton] at hd
    exact hd ▸ List.prefix_rfl
  | derived c parent hparent ih =>
    rw [lineage_of_parent hparent, List.mem_cons] at hd
    rcases hd with rfl | hd
    · exact List.prefix_rfl
    · have hown := h.own.inherits
      rw [inherited, hparent] at hown
      exact (ih (h.parent hparent) hd).trans hown

/-- Every slot has a label. -/
theorem length_memberNames (h : c.Formed) : c.memberNames.length = c.slots.length := by
  induction c using parentInduction with
  | root c hroot =>
    have hmembers := h.own.length_members
    rw [inherited, hroot] at hmembers
    simpa [memberNames_of_root hroot] using hmembers
  | derived c parent hparent ih =>
    have hmembers := h.own.length_members
    have hle := h.own.inherits.length_le
    rw [inherited, hparent] at hmembers hle
    rw [memberNames_of_parent hparent, List.length_append, ih (h.parent hparent), List.length_map,
      hmembers]
    exact Nat.add_sub_of_le hle

/-- The slot of a member that a class declares is labelled with its name, on that class and on all
that derive from it. -/
theorem label_of_member (h : c.Formed) {owner : Class} (howner : owner ∈ c.lineage)
    {name : String} {slot : Nat} (hmember : (name, some slot) ∈ owner.own.members) :
    c.memberNames[slot]? = some name := by
  have hown := h.of_mem howner
  obtain ⟨index, hindex⟩ := List.getElem?_of_mem hmember
  have hslot := hown.own.slot_eq hindex
  have hlabel : owner.memberNames[slot]? = some name := by
    cases hparent : owner.parent with
    | none =>
      rw [memberNames_of_root hparent, hslot, inherited, hparent]
      simp [hindex]
    | some parent =>
      rw [memberNames_of_parent hparent, hslot, inherited, hparent, Option.map_some,
        Option.getD_some, ← (hown.parent hparent).length_memberNames,
        List.getElem?_append_right (Nat.le_add_right _ _), Nat.add_sub_cancel_left,
        List.getElem?_map, hindex]
      rfl
  exact getElem?_longer (memberNames_of_mem howner) hlabel

/-- A property that is found is stored in a slot of the layout, one with its type and its name. -/
theorem storedAt (h : c.Formed) {owner : Class} {name : String} {p : Property}
    (hp : c.property? name = some (owner, p)) :
    ∃ slot, p.StoredAt owner.own slot ∧ (c.slots[slot]?).map (·.ty) = some p.ty ∧
      c.memberNames[slot]? = some name := by
  obtain ⟨howner, hfound⟩ := mem_of_property? hp
  obtain ⟨hname, hmem⟩ := Layer.name_of_property? hfound
  obtain ⟨slot, hstored⟩ := (h.of_mem howner).own.properties p hmem
  refine ⟨slot, hstored, map_getElem?_longer (h.slots_of_mem howner) hstored.ty, ?_⟩
  refine h.label_of_member howner (List.mem_append_right _ (List.mem_map.mpr ⟨p, hmem, ?_⟩))
  rw [hname, hstored.place]

/-- A field that is found has a slot of the layout, one with its type and its name. -/
theorem field_slot (h : c.Formed) {name : String} {f : Field} (hf : c.field? name = some f) :
    (c.slots[f.slot]?).map (·.ty) = some f.ty ∧ c.memberNames[f.slot]? = some name := by
  obtain ⟨owner, howner, hfound⟩ := exists_of_field? hf
  obtain ⟨hname, hmem⟩ := Layer.name_of_field? hfound
  constructor
  · exact map_getElem?_longer (h.slots_of_mem howner) ((h.of_mem howner).own.fields f hmem)
  · refine h.label_of_member howner (List.mem_append_left _ (List.mem_map.mpr ⟨f, hmem, ?_⟩))
    rw [hname]

end Formed

end Class

end ClassSynthesis
