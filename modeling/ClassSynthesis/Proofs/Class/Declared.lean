import ClassSynthesis.Proofs.Class.Formation
import ClassSynthesis.Proofs.Class.Heading
import ClassSynthesis.Proofs.Code.Bodies

/-!
# What a declaration makes

A declaration that is accepted gives a class whose layout is in order on top of its parent, with a
storing constructor for each one declared. Its assignments stay within the parameters and the
slots, and the constructor of the parent that it runs first is there and takes no arguments.
-/

namespace ClassSynthesis

section Except

variable {ε α β σ : Type}

/-- A computation in two steps succeeds if both steps do. -/
theorem bind_eq_ok {first : Except ε α} {second : α → Except ε β} {b : β}
    (h : (first >>= second) = .ok b) : ∃ a, first = .ok a ∧ second a = .ok b := by
  cases first with
  | ok a => exact ⟨a, rfl, h⟩
  | error e => cases h

/-- What a traversal that succeeds gives comes from elements on which the function succeeds. -/
theorem exists_of_mapM_eq_ok {f : α → Except ε β} {as : List α} {bs : List β}
    (h : as.mapM f = .ok bs) {b : β} (hb : b ∈ bs) : ∃ a ∈ as, f a = .ok b := by
  induction as generalizing bs with
  | nil =>
    rw [List.mapM_nil] at h
    obtain rfl : [] = bs := Except.ok.inj h
    cases hb
  | cons a as ih =>
    rw [List.mapM_cons] at h
    obtain ⟨first, hfirst, h⟩ := bind_eq_ok h
    obtain ⟨rest, hrest, h⟩ := bind_eq_ok h
    obtain rfl : first :: rest = bs := Except.ok.inj h
    rcases List.mem_cons.mp hb with rfl | hb
    · exact ⟨a, List.mem_cons_self, hfirst⟩
    · obtain ⟨other, hother, hf⟩ := ih hrest hb
      exact ⟨other, List.mem_cons_of_mem a hother, hf⟩

/-- A traversal that succeeds has done so at each place. -/
theorem map_getElem?_of_mapM_eq_ok {f : α → Except ε β} {as : List α} {bs : List β}
    (h : as.mapM f = .ok bs) (index : Nat) : (as[index]?).map f = (bs[index]?).map .ok := by
  induction as generalizing bs index with
  | nil =>
    rw [List.mapM_nil] at h
    obtain rfl : [] = bs := Except.ok.inj h
    rfl
  | cons a as ih =>
    rw [List.mapM_cons] at h
    obtain ⟨first, hfirst, h⟩ := bind_eq_ok h
    obtain ⟨rest, hrest, h⟩ := bind_eq_ok h
    obtain rfl : first :: rest = bs := Except.ok.inj h
    cases index with
    | zero => simp [hfirst]
    | succ index => simpa using ih hrest index

/-- A traversal that succeeds has done so before, at and behind each element. -/
theorem exists_split_of_mapM_eq_ok {f : α → Except ε β} {before after : List α} {a : α}
    {bs : List β} (h : (before ++ a :: after).mapM f = .ok bs) :
    ∃ first b rest, bs = first ++ b :: rest ∧ before.mapM f = .ok first ∧ f a = .ok b ∧
      after.mapM f = .ok rest := by
  rw [List.mapM_append] at h
  obtain ⟨first, hfirst, h⟩ := bind_eq_ok h
  obtain ⟨others, hothers, h⟩ := bind_eq_ok h
  rw [List.mapM_cons] at hothers
  obtain ⟨b, hb, hothers⟩ := bind_eq_ok hothers
  obtain ⟨rest, hrest, hothers⟩ := bind_eq_ok hothers
  obtain rfl : b :: rest = others := Except.ok.inj hothers
  exact ⟨first, b, rest, (Except.ok.inj h).symm, hfirst, hb, hrest⟩

/-- A traversal that succeeds gives one result for each element. -/
theorem length_of_mapM_eq_ok {f : α → Except ε β} {as : List α} {bs : List β}
    (h : as.mapM f = .ok bs) : bs.length = as.length := by
  induction as generalizing bs with
  | nil =>
    rw [List.mapM_nil] at h
    obtain rfl : [] = bs := Except.ok.inj h
    rfl
  | cons a as ih =>
    rw [List.mapM_cons] at h
    obtain ⟨first, -, h⟩ := bind_eq_ok h
    obtain ⟨rest, hrest, h⟩ := bind_eq_ok h
    obtain rfl : first :: rest = bs := Except.ok.inj h
    rw [List.length_cons, List.length_cons, ih hrest]

/-- What each step of a fold keeps holds at the end. -/
theorem foldlM_keeps {P : σ → Prop} {f : σ → α → Except ε σ} {as : List α}
    (hstep : ∀ s, ∀ a ∈ as, ∀ t, P s → f s a = .ok t → P t) {s t : σ} (hs : P s)
    (h : as.foldlM f s = .ok t) : P t := by
  induction as generalizing s with
  | nil =>
    rw [List.foldlM_nil] at h
    exact Except.ok.inj h ▸ hs
  | cons a as ih =>
    rw [List.foldlM_cons] at h
    obtain ⟨next, hnext, h⟩ := bind_eq_ok h
    have hkept := hstep s a List.mem_cons_self next hs hnext
    exact ih (fun s b hb => hstep s b (List.mem_cons_of_mem a hb)) hkept h

end Except

namespace Layer

variable {layer : Layer} {inherited : List Slot}

/-- Declared fields keep a layout in order. -/
theorem LaidOut.declareFields (h : layer.LaidOut inherited) (hnone : layer.properties = [])
    (fields : List FieldDecl) : (fields.foldl declareField layer).LaidOut inherited := by
  induction fields generalizing layer with
  | nil => exact h
  | cons f fields ih => exact ih (h.addField hnone f.name f.ty f.isPublic f.isReadonly) hnone

/-- Declared properties keep a layout in order. -/
theorem LaidOut.declareProperties (h : layer.LaidOut inherited) (properties : List PropertyDecl) :
    (properties.foldl declareProperty layer).LaidOut inherited := by
  induction properties generalizing layer with
  | nil => exact h
  | cons p properties ih => exact ih (h.addProperty p.name _ p.ty p.writable [])

/-- Declared fields add no properties. -/
theorem properties_declareFields (fields : List FieldDecl) (layer : Layer) :
    (fields.foldl declareField layer).properties = layer.properties :=
  foldl_unchanged (·.properties) declareField (fun _ _ => rfl) fields layer

/-- Declared properties add no fields. -/
theorem fields_declareProperties (properties : List PropertyDecl) (layer : Layer) :
    (properties.foldl declareProperty layer).fields = layer.fields :=
  foldl_unchanged (·.fields) declareProperty (fun _ _ => rfl) properties layer

end Layer

namespace Class

variable {c : Class}

/-- A slot that a constructor of a class in the making may assign is a slot of the layout. -/
theorem assignedSlot?_lt (hown : c.LaidOut)
    (hparent : ∀ parent, c.parent = some parent → parent.Formed) {member : String} {slot : Nat}
    (h : c.assignedSlot? member = some slot) : slot < c.slots.length := by
  have hinherited {parent : Class} (hp : c.parent = some parent) {ty : Ty}
      (hty : (parent.slots[slot]?).map (·.ty) = some ty) : slot < c.slots.length := by
    have hle := hown.inherits.length_le
    rw [inherited, hp] at hle
    exact Nat.lt_of_lt_of_le (lt_length_of_typed hty) hle
  unfold assignedSlot? at h
  cases hf : c.own.fields.find? (·.name == member) with
  | some f =>
    obtain rfl : f.slot = slot := by simpa [hf] using h
    exact lt_length_of_typed (hown.fields f (List.mem_of_find?_eq_some hf))
  | none =>
    cases hp : c.own.properties.find? (·.name == member) with
    | some p =>
      obtain ⟨place, hstored⟩ := hown.properties p (List.mem_of_find?_eq_some hp)
      obtain rfl : place = slot := by simpa [hf, hp, hstored.place] using h
      exact lt_length_of_typed hstored.ty
    | none =>
      cases hparents : c.parent with
      | none => simp [hf, hp, hparents] at h
      | some parent =>
        have hformed := hparent parent hparents
        cases hpf : parent.field? member with
        | some f =>
          obtain rfl : f.slot = slot := by simpa [hf, hp, hparents, hpf] using h
          exact hinherited hparents (hformed.field_slot hpf).1
        | none =>
          cases hpp : parent.property? member with
          | none => simp [hf, hp, hparents, hpf, hpp] at h
          | some found =>
            obtain ⟨owner, p⟩ := found
            obtain ⟨place, hstored, hty, -⟩ := hformed.storedAt hpp
            obtain rfl : place = slot := by
              simpa [hf, hp, hparents, hpf, hpp, hstored.place] using h
            exact hinherited hparents hty

/-- A constructor that is found to take no arguments is one of the class. -/
theorem exists_of_parameterless? {target : Nat} (h : c.parameterless? = some target) :
    ∃ k, c.constructors[target]? = some k ∧ k.parameters = [] := by
  obtain ⟨hlt, hempty, -⟩ := List.findIdx?_eq_some_iff_getElem.mp h
  exact ⟨c.constructors[target], List.getElem?_eq_getElem hlt, List.isEmpty_iff.mp hempty⟩

end Class

namespace ConstructorDecl

variable {d : ConstructorDecl} {c : Class}

/-- A compiled constructor has the declared number of parameters and a storing body. -/
theorem compile_eq_ok {base : Option Nat} {k : Constructor} (h : d.compile c base = .ok k) :
    ∃ assignments,
      d.assignments.mapM (fun (parameter, member) => d.compileAssignment c parameter member) =
          .ok assignments ∧
        k.parameters.length = d.parameters.length ∧ k.code = Code.storing base assignments := by
  obtain ⟨assignments, hassignments, h⟩ := bind_eq_ok h
  obtain ⟨parameters, hparameters, h⟩ := bind_eq_ok h
  obtain rfl : ⟨parameters, Code.storing base assignments⟩ = k := Except.ok.inj h
  refine ⟨assignments, hassignments, ?_, rfl⟩
  refine foldlM_keeps (P := fun ps => ps.length = d.parameters.length) ?_ ?_ hparameters
  · rintro ps a - ps' hlength hattach
    unfold attach at hattach
    cases hindex : ps.findIdx? (·.name == a.parameter) with
    | none => simp [hindex] at hattach
    | some index =>
      simp only [hindex] at hattach
      obtain ⟨made, -, hattach⟩ := bind_eq_ok hattach
      rw [← Except.ok.inj hattach, List.length_modify, hlength]
  · simp [plainParameters]

/-- An assignment is compiled to the first parameter of its name and the slot of its member. -/
theorem compileAssignment_eq_ok {parameter member : String} {argument slot : Nat}
    (h : d.compileAssignment c parameter member = .ok (argument, slot)) :
    d.parameter? parameter = some argument ∧ c.assignedSlot? member = some slot := by
  unfold compileAssignment at h
  cases hp : d.parameter? parameter with
  | none => simp [hp] at h
  | some index =>
    cases hs : c.assignedSlot? member with
    | none => simp [hp, hs] at h
    | some place =>
      simp only [hp, hs, Except.ok.injEq, Prod.mk.injEq] at h
      exact ⟨congrArg some h.1, congrArg some h.2⟩

/-- An assignment takes one of the parameters and stores it into a slot of the layout. -/
theorem compileAssignment_lt (hown : c.LaidOut)
    (hparent : ∀ parent, c.parent = some parent → parent.Formed) {parameter member : String}
    {argument slot : Nat}
    (h : d.compileAssignment c parameter member = .ok (argument, slot)) :
    argument < d.parameters.length ∧ slot < c.slots.length := by
  obtain ⟨hargument, hslot⟩ := compileAssignment_eq_ok h
  constructor
  · exact (List.findIdx?_eq_some_iff_getElem.mp hargument).1
  · exact Class.assignedSlot?_lt hown hparent hslot

/-- The body of a compiled constructor is sound, if the constructor of the parent that it runs first
takes no arguments. -/
theorem soundIn_compile {base : Option Nat} {k : Constructor} (hown : c.LaidOut)
    (hparent : ∀ parent, c.parent = some parent → parent.Formed)
    (hbase : ∀ target, base = some target → ∃ parent k, c.parent = some parent ∧
      parent.constructors[target]? = some k ∧ k.parameters = [])
    (h : d.compile c base = .ok k) : k.code.SoundIn c k.parameters.length := by
  obtain ⟨assignments, hassignments, hlength, hcode⟩ := compile_eq_ok h
  rw [hcode, hlength]
  refine Code.soundIn_storing hbase ?_
  intro argument slot hmem
  obtain ⟨⟨parameter, member⟩, -, hcompiled⟩ := exists_of_mapM_eq_ok hassignments hmem
  exact compileAssignment_lt hown hparent hcompiled

end ConstructorDecl

namespace Declaration

variable {d : Declaration}

@[simp] theorem parent_members (d : Declaration) (key : ClassKey) (container : String) :
    (d.members key container).parent = d.parent := by
  simp [members]

/-- The declared members are laid out on top of the parent. -/
theorem laidOut_members (d : Declaration) (key : ClassKey) (container : String) :
    (d.members key container).LaidOut := by
  have hempty := Class.laidOut_empty key d.name container d.visibility d.kind d.parent
  have hmembers := (hempty.declareFields rfl d.fields).declareProperties d.properties
  rw [Class.LaidOut, Class.inherited, parent_members]
  exact hmembers

/-- The declared fields are added to the empty class first, then the declared properties. -/
theorem own_members (d : Declaration) (key : ClassKey) (container : String) :
    (d.members key container).own = d.properties.foldl Layer.declareProperty
      (d.fields.foldl Layer.declareField
        (Class.empty key d.name container d.visibility d.kind d.parent).own) := rfl

/-- The slots are those of the parent, then one for each field, then one for each property. -/
theorem slots_members (d : Declaration) (key : ClassKey) (container : String) :
    (d.members key container).slots = (d.parent.map Class.slots).getD [] ++
      d.fields.map (fun f => ⟨f.name, f.ty⟩) ++
        d.properties.map fun p => ⟨Layer.declaredSlotName p.name, p.ty⟩ := by
  have hfields := Layer.foldl_append_map (·.slots) Layer.declareField
    (fun f => ⟨f.name, f.ty⟩) (fun _ _ => rfl) d.fields
  have hproperties := Layer.foldl_append_map (·.slots) Layer.declareProperty
    (fun p => ⟨Layer.declaredSlotName p.name, p.ty⟩) (fun _ _ => rfl) d.properties
  rw [Class.slots, own_members, hproperties, hfields]
  rfl

/-- The names of the fields are the declared ones. -/
theorem names_fields_members (d : Declaration) (key : ClassKey) (container : String) :
    (d.members key container).own.fields.map (·.name) = d.fields.map (·.name) := by
  have hfields := Layer.foldl_append_map (fun layer => layer.fields.map (·.name))
    Layer.declareField (·.name) (fun _ _ => List.map_append) d.fields
  rw [own_members, Layer.fields_declareProperties, hfields]
  rfl

/-- The names of the properties are the declared ones. -/
theorem names_properties_members (d : Declaration) (key : ClassKey) (container : String) :
    (d.members key container).own.properties.map (·.name) = d.properties.map (·.name) := by
  have hproperties := Layer.foldl_append_map (fun layer => layer.properties.map (·.name))
    Layer.declareProperty (·.name) (fun _ _ => List.map_append) d.properties
  rw [own_members, hproperties, Layer.properties_declareFields]
  rfl

/-- The constructor of the parent that declared constructors run first takes no arguments. -/
theorem exists_of_baseConstructor {target : Nat} (h : d.baseConstructor = .ok (some target)) :
    ∃ parent k, d.parent = some parent ∧ parent.constructors[target]? = some k ∧
      k.parameters = [] := by
  unfold baseConstructor at h
  cases hparent : d.parent with
  | none => simp [hparent] at h
  | some parent =>
    by_cases hnone : parent.constructors.isEmpty
    · simp [hparent, hnone] at h
    · cases hfound : parent.parameterless? with
      | none => simp [hparent, hnone, hfound] at h
      | some index =>
        obtain rfl : index = target := by simpa [hparent, hnone, hfound] using h
        obtain ⟨k, hk, hempty⟩ := Class.exists_of_parameterless? hfound
        exact ⟨parent, k, rfl, hk, hempty⟩

/-- A parent with constructors is accepted only if one of them takes no arguments. -/
theorem parent_of_baseConstructor {base : Option Nat} (h : d.baseConstructor = .ok base)
    {parent : Class} (hparent : d.parent = some parent) :
    parent.constructors = [] ∨ ∃ k ∈ parent.constructors, k.parameters = [] := by
  by_cases hnone : parent.constructors = []
  · exact .inl hnone
  · cases hfound : parent.parameterless? with
    | none => simp [baseConstructor, hparent, hnone, hfound] at h
    | some index =>
      obtain ⟨k, hk, hempty⟩ := Class.exists_of_parameterless? hfound
      exact .inr ⟨k, List.mem_of_getElem? hk, hempty⟩

/-- A class that is compiled from a declaration has the declared members and the compiled
constructors. -/
theorem compile_eq_ok {key : ClassKey} {container : String} {c : Class}
    (h : d.compile key container = .ok c) :
    ∃ base constructors, d.baseConstructor = .ok base ∧
      d.constructors.mapM (fun k => k.compile (d.members key container) base) =
          .ok constructors ∧
        c = (d.members key container).mapOwn fun layer => { layer with constructors } := by
  obtain ⟨base, hbase, h⟩ := bind_eq_ok h
  obtain ⟨constructors, hconstructors, h⟩ := bind_eq_ok h
  exact ⟨base, constructors, hbase, hconstructors, (Except.ok.inj h).symm⟩

/-- A compiled class is laid out on top of its parent, whatever that is. -/
theorem laidOut_of_compile {key : ClassKey} {container : String} {c : Class}
    (h : d.compile key container = .ok c) : c.LaidOut := by
  obtain ⟨base, constructors, -, -, rfl⟩ := compile_eq_ok h
  rw [Class.LaidOut, Class.inherited, Class.parent_mapOwn]
  exact (d.laidOut_members key container).congr rfl rfl rfl rfl

end Declaration

/-- What is declared is compiled from the declaration. -/
theorem Registry.declare_eq_ok {d : Declaration} {r left : Registry} {c : Class}
    (h : Registry.declare d r = .ok c left) :
    ∃ key container, d.compile key container = .ok c := by
  refine ⟨r.allocate.1, r.allocate.2.containerName d.container, ?_⟩
  simp only [declare] at h
  cases hc : d.compile r.allocate.1 (r.allocate.2.containerName d.container) with
  | ok made =>
    simp only [hc, EStateM.Result.ok.injEq] at h
    rw [h.1]
  | error e => simp [hc] at h

end ClassSynthesis
