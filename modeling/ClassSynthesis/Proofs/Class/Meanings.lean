import ClassSynthesis.Proofs.Class.Construction
import ClassSynthesis.Proofs.Instance.Overrides

/-!
# What a name means to constructors and to callers

A declared constructor looks up the members that it stores into among those that the class declares
itself, the first one first and fields before properties, and then among the inherited ones, again
fields before properties. Callers look for a property on the class and all its ancestors before they
look for a field, and where one class declares a name twice they take the last one. So the two may
mean different members by one name. They mean the same one if and only if the class declares the
name at most once itself, and does not see both a field and an inherited property of that name.
-/

namespace ClassSynthesis

/-- The first and the last entry of a list without repetitions are the same in short lists only. -/
private theorem head?_eq_getLast?_iff {α : Type} {as : List α} (h : as.Nodup) :
    as.head? = as.getLast? ↔ as.length ≤ 1 := by
  rcases as with _ | ⟨a, _ | ⟨b, rest⟩⟩
  · simp
  · simp
  · have hne : a ≠ (b :: rest).getLast (List.cons_ne_nil b rest) := by
      rintro heq
      exact (List.nodup_cons.mp h).1 (heq ▸ List.getLast_mem (List.cons_ne_nil b rest))
    simpa [List.getLast?_cons_cons, List.getLast?_eq_some_getLast] using hne

namespace Layer

/-- The property of a name is the last one that is declared with it. -/
theorem property?_eq_getLast? (layer : Layer) (name : String) :
    layer.property? name = (layer.properties.filter (·.name == name)).getLast? := by
  rw [property?, ← List.head?_filter, List.filter_reverse, List.head?_reverse]

/-- The field of a name is the last one that is declared with it. -/
theorem field?_eq_getLast? (layer : Layer) (name : String) :
    layer.field? name = (layer.fields.filter (·.name == name)).getLast? := by
  rw [field?, ← List.head?_filter, List.filter_reverse, List.head?_reverse]

/-- The members that a layer declares with a name, fields first. -/
def named (layer : Layer) (name : String) : List Member :=
  layer.declared.filter (·.name == name)

theorem named_eq (layer : Layer) (name : String) :
    layer.named name = (layer.fields.filter (·.name == name)).map .field ++
      (layer.properties.filter (·.name == name)).map .property := by
  rw [named, declared, List.filter_append, List.filter_map, List.filter_map]
  rfl

/-- The last of them is the property that is found, or else the field. -/
theorem getLast?_named (layer : Layer) (name : String) :
    (layer.named name).getLast? =
      ((layer.property? name).map .property).or ((layer.field? name).map .field) := by
  rw [named_eq, property?_eq_getLast?, field?_eq_getLast?, List.getLast?_append,
    List.getLast?_map, List.getLast?_map]

/-- Without a property they are fields. -/
theorem named_eq_fields {layer : Layer} {name : String} (h : layer.property? name = none) :
    layer.named name = (layer.fields.filter (·.name == name)).map .field := by
  rw [property?_eq_getLast?, List.getLast?_eq_none_iff] at h
  rw [named_eq, h, List.map_nil, List.append_nil]

end Layer

namespace Class

variable {c : Class} {name : String} {slot : Nat}

/-- The member that constructors of the class store into under this name: the first one that the
class declares itself, or else an inherited one, a field if there is one. -/
def assigned? (c : Class) (name : String) : Option Member :=
  match (c.own.named name).head? with
  | some m => some m
  | none =>
    match c.parent.bind (·.field? name) with
    | some f => some (.field f)
    | none => (c.parent.bind (·.property? name)).map fun found => .property found.2

/-- The member that callers read and write under this name: the property that is found, or else the
field. -/
def accessed? (c : Class) (name : String) : Option Member :=
  match c.property? name with
  | some (_, p) => some (.property p)
  | none => (c.field? name).map .field

/-- A name is clear to a class that declares it at most once, and that sees no field of the name
beside a property that it has inherited. -/
structure Clear (c : Class) (name : String) : Prop where
  /-- The class itself declares it at most once. -/
  once : (c.own.named name).length ≤ 1
  /-- A property that is not its own stands alone. -/
  alone : c.own.property? name = none → c.property? name = none ∨ c.field? name = none

/-- Constructors store into the slot of the member that they mean. -/
theorem assignedSlot?_eq (c : Class) (name : String) :
    c.assignedSlot? name = (c.assigned? name).bind (·.slot?) := by
  rw [assignedSlot?, assigned?, Layer.named_eq, ← List.head?_filter, ← List.head?_filter]
  cases c.own.fields.filter (·.name == name) with
  | cons f fields => rfl
  | nil =>
    cases c.own.properties.filter (·.name == name) with
    | cons p properties => rfl
    | nil =>
      cases hf : c.parent.bind (·.field? name) with
      | some f => simp [Member.slot?]
      | none =>
        cases hparent : c.parent with
        | none => simp
        | some parent =>
          rw [hparent, Option.bind_some] at hf
          cases hp : parent.property? name <;> simp [hp, Member.slot?]

/-- The slot that a name stands for is that of the member which callers mean. -/
theorem slotOf?_eq (c : Class) (name : String) :
    c.slotOf? name = (c.accessed? name).bind (·.slot?) := by
  rw [slotOf?, accessed?]
  cases c.property? name with
  | some found => rfl
  | none => cases c.field? name <;> rfl

/-- Where the class declares the name, its constructors mean the first member that it declares. -/
theorem assigned?_of_named {m : Member} (h : m ∈ c.own.named name) :
    c.assigned? name = (c.own.named name).head? := by
  unfold assigned?
  cases hnamed : c.own.named name with
  | nil => simp [hnamed] at h
  | cons first rest => rfl

/-- Where the class declares a property of the name, callers mean its last declaration. -/
theorem assigned?_eq_accessed?_iff_of_property (hnodup : (c.own.named name).Nodup) {p : Property}
    (hp : c.own.property? name = some p) : c.assigned? name = c.accessed? name ↔ c.Clear name := by
  have hlast : (c.own.named name).getLast? = some (.property p) := by
    rw [Layer.getLast?_named, hp]
    rfl
  have haccessed : c.accessed? name = (c.own.named name).getLast? := by
    rw [accessed?, property?_eq, hp, hlast]
  rw [assigned?_of_named (List.mem_of_getLast? hlast), haccessed,
    head?_eq_getLast?_iff hnodup]
  constructor
  · exact fun honce => ⟨honce, by simp [hp]⟩
  · exact Clear.once

/-- Where the class declares only fields of the name, callers mean the last one, unless a property
is inherited. -/
theorem assigned?_eq_accessed?_iff_of_field (hnodup : (c.own.named name).Nodup)
    (hp : c.own.property? name = none) {f : Field} (hf : c.own.field? name = some f) :
    c.assigned? name = c.accessed? name ↔ c.Clear name := by
  have hlast : (c.own.named name).getLast? = some (.field f) := by
    rw [Layer.getLast?_named, hp, hf]
    rfl
  have hfield : c.field? name = some f := by
    rw [field?_eq, hf]
  have haccessed (hnone : c.property? name = none) :
      c.accessed? name = (c.own.named name).getLast? := by
    rw [accessed?, hnone, hfield, hlast]
    rfl
  rw [assigned?_of_named (List.mem_of_getLast? hlast)]
  constructor
  · intro hsame
    have hnone : c.property? name = none := by
      cases hfound : c.property? name with
      | none => rfl
      | some found =>
        -- What comes first is a field, since the class declares no property.
        rw [accessed?, hfound, Layer.named_eq_fields hp, List.head?_map] at hsame
        obtain ⟨first, -, hfirst⟩ := Option.map_eq_some_iff.mp hsame
        cases hfirst
    rw [haccessed hnone, head?_eq_getLast?_iff hnodup] at hsame
    exact ⟨hsame, fun _ => .inl hnone⟩
  · intro hclear
    have hnone : c.property? name = none := (hclear.alone hp).resolve_right (by simp [hfield])
    rw [haccessed hnone, head?_eq_getLast?_iff hnodup]
    exact hclear.once

/-- Where the class does not declare the name, constructors prefer inherited fields and callers
prefer inherited properties. -/
theorem assigned?_eq_accessed?_iff_of_none (hp : c.own.property? name = none)
    (hf : c.own.field? name = none) : c.assigned? name = c.accessed? name ↔ c.Clear name := by
  have hnil : c.own.named name = [] := by
    rw [← List.getLast?_eq_none_iff, Layer.getLast?_named, hp, hf]
    rfl
  have hassigned : c.assigned? name = match c.field? name with
      | some f => some (.field f)
      | none => (c.property? name).map fun found => .property found.2 := by
    rw [assigned?, hnil, field?_eq, hf, property?_eq, hp]
    rfl
  rw [hassigned, accessed?]
  constructor
  · intro hsame
    refine ⟨by simp [hnil], fun _ => ?_⟩
    cases hfield : c.field? name with
    | none => exact .inr rfl
    | some f =>
      cases hfound : c.property? name with
      | none => exact .inl rfl
      | some found => simp [hfield, hfound] at hsame
  · intro hclear
    rcases hclear.alone hp with hnone | hnone
    · simp only [hnone]
      cases c.field? name <;> rfl
    · simp only [hnone]
      cases c.property? name <;> rfl

/-- Constructors and callers mean the same member by a name that is clear, and by no other. -/
theorem assigned?_eq_accessed?_iff (hnodup : (c.own.named name).Nodup) :
    c.assigned? name = c.accessed? name ↔ c.Clear name := by
  cases hp : c.own.property? name with
  | some p => exact assigned?_eq_accessed?_iff_of_property hnodup hp
  | none =>
    cases hf : c.own.field? name with
    | some f => exact assigned?_eq_accessed?_iff_of_field hnodup hp hf
    | none => exact assigned?_eq_accessed?_iff_of_none hp hf

/-! ### Slots -/

/-- The member that constructors mean is a stored one of that name. -/
theorem mem_storedMembers_of_assigned? {m : Member} (h : c.assigned? name = some m) :
    m ∈ c.storedMembers ∧ m.name = name := by
  unfold assigned? at h
  cases hfirst : (c.own.named name).head? with
  | some first =>
    simp only [hfirst, Option.some.injEq] at h
    obtain ⟨hmem, hname⟩ := List.mem_filter.mp (h ▸ List.mem_of_head? hfirst)
    exact ⟨mem_storedMembers (mem_lineage_self c) hmem, by simpa using hname⟩
  | none =>
    cases hparent : c.parent with
    | none => simp [hfirst, hparent] at h
    | some parent =>
      have hinherited {m : Member} (hm : m ∈ parent.storedMembers) : m ∈ c.storedMembers := by
        rw [storedMembers_of_parent hparent]
        exact List.mem_append_left _ hm
      cases hf : parent.field? name with
      | some f =>
        obtain rfl : .field f = m := by simpa [hfirst, hparent, hf] using h
        obtain ⟨hmem, hname⟩ := field_mem_storedMembers hf
        exact ⟨hinherited hmem, hname⟩
      | none =>
        cases hp : parent.property? name with
        | none => simp [hfirst, hparent, hf, hp] at h
        | some found =>
          obtain ⟨owner, p⟩ := found
          obtain rfl : .property p = m := by simpa [hfirst, hparent, hf, hp] using h
          obtain ⟨hmem, hname⟩ := property_mem_storedMembers hp
          exact ⟨hinherited hmem, hname⟩

/-- So is the member that callers mean. -/
theorem mem_storedMembers_of_accessed? {m : Member} (h : c.accessed? name = some m) :
    m ∈ c.storedMembers ∧ m.name = name := by
  unfold accessed? at h
  cases hp : c.property? name with
  | some found =>
    obtain ⟨owner, p⟩ := found
    obtain rfl : .property p = m := by simpa [hp] using h
    exact property_mem_storedMembers hp
  | none =>
    cases hf : c.field? name with
    | none => simp [hp, hf] at h
    | some f =>
      obtain rfl : .field f = m := by simpa [hp, hf] using h
      exact field_mem_storedMembers hf

namespace Formed

/-- No member is declared twice. -/
theorem nodup_named (h : c.Formed) (name : String) : (c.own.named name).Nodup := by
  have hslots : (c.own.declared.map (·.slot?)).Nodup := by
    rw [h.own.map_slot?_declared]
    exact List.Nodup.map (fun _ _ => Option.some.inj) (List.nodup_range' 1)
  exact (List.Nodup.of_map _ hslots).filter _

/-- Constructors store into the slot that callers use if and only if the name is clear. -/
theorem slotOf?_eq_assignedSlot?_iff (h : c.Formed) (hslot : c.assignedSlot? name = some slot) :
    c.slotOf? name = some slot ↔ c.Clear name := by
  rw [← assigned?_eq_accessed?_iff (h.nodup_named name)]
  rw [assignedSlot?_eq] at hslot
  obtain ⟨m, hm, hmslot⟩ := Option.bind_eq_some_iff.mp hslot
  constructor
  · intro hsame
    rw [slotOf?_eq] at hsame
    obtain ⟨n, hn, hnslot⟩ := Option.bind_eq_some_iff.mp hsame
    have hone := h.eq_of_slot? (mem_storedMembers_of_assigned? hm).1
      (mem_storedMembers_of_accessed? hn).1 hmslot hnslot
    rw [hm, hn, hone]
  · intro hsame
    rw [slotOf?_eq, ← hsame, hm]
    exact hmslot

/-- Constructors do not store into one slot under two names. -/
theorem assignedSlot?_inj (h : c.Formed) {other : String} (hslot : c.assignedSlot? name = some slot)
    (hother : c.assignedSlot? other = some slot) : name = other := by
  rw [assignedSlot?_eq] at hslot hother
  obtain ⟨m, hm, hmslot⟩ := Option.bind_eq_some_iff.mp hslot
  obtain ⟨n, hn, hnslot⟩ := Option.bind_eq_some_iff.mp hother
  obtain ⟨hmem, rfl⟩ := mem_storedMembers_of_assigned? hm
  obtain ⟨hmem', rfl⟩ := mem_storedMembers_of_assigned? hn
  rw [h.eq_of_slot? hmem hmem' hmslot hnslot]

end Formed

end Class

/-- Only constructors that accept the arguments construct anything. -/
theorem Instance.accepts_of_construct {c : Class} {target : Nat} {k : Constructor}
    (hk : c.constructors[target]? = some k) {arguments : List Value} {i : Instance}
    (h : construct c target arguments = .ok i) : k.accepts arguments = true := by
  unfold construct at h
  rw [hk] at h
  by_cases haccepts : k.accepts arguments
  · exact haccepts
  · simp [haccepts] at h

namespace Class

variable {c : Class} {d : Declaration} {r left : Registry} {target : Nat} {k : ConstructorDecl}
  {member : String} {argument slot : Nat}

/-- What a declared constructor makes holds an argument in the slot that the argument goes to, unless
a later assignment goes to that slot. -/
theorem slot?_of_construct (hc : c.Made) (h : Registry.declare d r = .ok c left)
    (hk : d.constructors[target]? = some k) {first rest : List (Nat × Nat)}
    (hassigned : k.assignments.mapM (fun (parameter, member) =>
      k.compileAssignment c parameter member) = .ok (first ++ (argument, slot) :: rest))
    (hlast : ∀ argument' slot', (argument', slot') ∈ rest → slot' ≠ slot)
    {arguments : List Value} {i : Instance} (hi : Instance.construct c target arguments = .ok i) :
    ∃ value, arguments[argument]? = some value ∧ i.slot? slot = some value := by
  have hassigns : c.Assigns target (first ++ (argument, slot) :: rest) :=
    .declared h hk hassigned
  obtain ⟨made, hmade, hruns⟩ := hc.runs_of_assigns hassigns
  have haccepts := Instance.accepts_of_construct hmade hi
  have hmem : (argument, slot) ∈ first ++ (argument, slot) :: rest := by simp
  have hargument : argument < arguments.length := by
    rw [Constructor.length_of_accepts haccepts]
    exact hruns.arguments argument slot hmem
  have hslot : slot < c.slots.length := hruns.slots argument slot hmem
  rw [hc.construct_eq hassigns hmade haccepts] at hi
  cases hmisfit : c.misfit? arguments (first ++ (argument, slot) :: rest) with
  | some e => simp [hmisfit] at hi
  | none =>
    rw [hmisfit] at hi
    obtain rfl := Except.ok.inj hi
    refine ⟨arguments[argument], List.getElem?_eq_getElem hargument, ?_⟩
    rw [Instance.slot?, getElem?_overwritten_last first hlast (by simpa using hslot),
      List.getD_eq_getElem?_getD, List.getElem?_eq_getElem hargument, Option.getD_some]

/-- Each assignment of a declared constructor is compiled, among the assignments of its body and in
its place, to the first parameter of its name and to one slot. That slot is the one that callers use
for the member if and only if the name of the member is clear to the class. Where it is, every
instance that the constructor makes has the argument under the name, unless a later assignment is
for the same name. -/
theorem assignment_agrees_iff_clear (hparent : ∀ parent, d.parent = some parent → parent.Made)
    (h : Registry.declare d r = .ok c left) (hk : d.constructors[target]? = some k)
    {before after : List (String × String)} {parameter : String}
    (hsplit : k.assignments = before ++ (parameter, member) :: after) :
    ∃ made base first argument slot rest,
      c.constructors[target]? = some made ∧
      made.code = Code.storing base (first ++ (argument, slot) :: rest) ∧
      first.length = before.length ∧ rest.length = after.length ∧
      k.parameter? parameter = some argument ∧
      (c.slotOf? member = some slot ↔ c.Clear member) ∧
      (c.Clear member → member ∉ after.map (·.2) →
        ∀ arguments i, Instance.construct c target arguments = .ok i →
          ∃ value, arguments[argument]? = some value ∧ i.getMember member = .ok value) := by
  have hc : c.Made := .declared hparent h
  have hformed := hc.sound.formed
  obtain ⟨base, -, hconstructors⟩ := constructors_of_declare h
  have hcompiled := hconstructors target
  rw [hk, Option.map_some] at hcompiled
  obtain ⟨made, hmade, hcompile⟩ := Option.map_eq_some_iff.mp hcompiled.symm
  obtain ⟨assignments, hassigned, -, hcode⟩ := ConstructorDecl.compile_eq_ok hcompile.symm
  have hparts := hassigned
  rw [hsplit] at hparts
  obtain ⟨first, ⟨argument, slot⟩, rest, rfl, hfirst, hone, hrest⟩ :=
    exists_split_of_mapM_eq_ok hparts
  obtain ⟨hargument, hslot⟩ := ConstructorDecl.compileAssignment_eq_ok hone
  have hagrees := hformed.slotOf?_eq_assignedSlot?_iff hslot
  refine ⟨made, base, first, argument, slot, rest, hmade, hcode, length_of_mapM_eq_ok hfirst,
    length_of_mapM_eq_ok hrest, hargument, hagrees, ?_⟩
  intro hclear hlater arguments i hi
  have hlast : ∀ argument' slot', (argument', slot') ∈ rest → slot' ≠ slot := by
    rintro argument' slot' hmem rfl
    obtain ⟨⟨other, name⟩, hother, hcompiled⟩ := exists_of_mapM_eq_ok hrest hmem
    obtain ⟨-, hsame⟩ := ConstructorDecl.compileAssignment_eq_ok hcompiled
    obtain rfl := hformed.assignedSlot?_inj hsame hslot
    exact hlater (List.mem_map_of_mem hother)
  have hof : i.IsOf c :=
    Instance.keeps_construct (Instance.storeKeeps_isOf c) (Instance.isOf_blank c) hi
  obtain ⟨value, hvalue, hheld⟩ := slot?_of_construct hc h hk hassigned hlast hi
  exact ⟨value, hvalue, Instance.getMember_of_slotOf? hformed hof (hagrees.mpr hclear) hheld⟩

/-- A letter has a field for its stamp. -/
def letterDeclaration : Declaration where
  name := "Letter"
  fields := [{ name := "Stamp", ty := .str }]

/-- The class of this declaration. -/
def letter : Class := letterDeclaration.members ⟨0, 0⟩ "DynamicAssembly"

/-- A parcel has a property of this name instead, which its second constructor stores into. -/
def parcelDeclaration : Declaration where
  name := "Parcel"
  parent := some letter
  properties := [{ name := "Stamp", ty := .str, writable := false }]
  constructors := [{}, { parameters := [("stamp", .str)], assignments := [("stamp", "Stamp")] }]

/-- The class of this declaration. -/
def parcel : Class :=
  (parcelDeclaration.members ⟨0, 1⟩ "DynamicAssembly").mapOwn fun layer =>
    { layer with
      constructors :=
        [⟨[], Code.storing none []⟩, ⟨[⟨"stamp", .str, 0, []⟩], Code.storing none [(0, 1)]⟩] }

/-- An express parcel has nothing of its own but a constructor for the stamp. -/
def expressDeclaration : Declaration where
  name := "Express"
  parent := some parcel
  constructors := [{ parameters := [("stamp", .str)], assignments := [("stamp", "Stamp")] }]

/-- The class of this declaration. -/
def express : Class :=
  (expressDeclaration.members ⟨0, 2⟩ "DynamicAssembly").mapOwn fun layer =>
    { layer with
      constructors := [⟨[⟨"stamp", .str, 0, []⟩], Code.storing (some 0) [(0, 0)]⟩] }

/-- The registry after the letter, and after the parcel. -/
def letterOffice : Registry := (Registry.empty 0 {}).allocate.2.register letter

def parcelOffice : Registry := letterOffice.allocate.2.register parcel

theorem declare_letter :
    Registry.declare letterDeclaration (.empty 0 {}) = .ok letter letterOffice := rfl

theorem declare_parcel :
    Registry.declare parcelDeclaration letterOffice = .ok parcel parcelOffice := rfl

theorem made_letter : letter.Made := .declared (by rintro parent ⟨⟩) declare_letter

/-- A parcel has the stamp that its constructor is given. -/
theorem assignment_agrees_parcel :
    parcel.Clear "Stamp" ∧ ∃ i, Instance.construct parcel 1 [.str "first class"] = .ok i ∧
      i.getMember "Stamp" = .ok (.str "first class") := by
  have hparent : ∀ parent, parcelDeclaration.parent = some parent → parent.Made := by
    rintro parent ⟨⟩
    exact made_letter
  have hk : parcelDeclaration.constructors[1]? =
      some { parameters := [("stamp", .str)], assignments := [] ++ ("stamp", "Stamp") :: [] } := rfl
  have hclear : parcel.Clear "Stamp" := ⟨by decide, by rintro ⟨⟩⟩
  have hmade : Instance.construct parcel 1 [.str "first class"] =
      .ok ⟨parcel, [.null, .str "first class"]⟩ := rfl
  obtain ⟨made, base, first, argument, slot, rest, -, -, -, -, hargument, -, hreads⟩ :=
    assignment_agrees_iff_clear hparent declare_parcel hk rfl
  obtain ⟨value, hvalue, hread⟩ := hreads hclear List.not_mem_nil _ _ hmade
  obtain rfl : 0 = argument := Option.some.inj hargument
  obtain rfl : Value.str "first class" = value := Option.some.inj hvalue
  exact ⟨hclear, _, hmade, hread⟩

/-- The constructor of an express parcel stores the stamp into the field of the letter, which the
property of the parcel hides, so the parcel goes without. -/
theorem express_lacks_stamp :
    ∃ left, Registry.declare expressDeclaration parcelOffice = .ok express left ∧
      (express.constructors[0]?).map (·.code) = some (Code.storing (some 0) [(0, 0)]) ∧
      express.slotOf? "Stamp" = some 1 ∧
      ∃ i, Instance.create express [.str "first class"] = .ok i ∧
        i.slots = [.str "first class", .null] ∧ i.getMember "Stamp" = .ok .null :=
  ⟨_, rfl, rfl, rfl, _, rfl, rfl, rfl⟩

end Class

end ClassSynthesis
