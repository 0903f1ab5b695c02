import ClassSynthesis.Proofs.Class.Attached
import ClassSynthesis.Proofs.Class.Subtyping

/-!
# Visible properties

The properties that a class sees can be listed, and each can be looked up by its name. The list is
made in one walk up the lineage that passes over every name it has met before; a look-up walks up on
its own, as far as the first class that declares the name. Where no class of the lineage declares a
name twice, a look-up finds what the list has under that name: the declaration of the most derived
class. The order of the list is the order in which a reader meets the declarations on the way up.
-/

namespace ClassSynthesis

/-- The layer declares a property of this name. -/
def Layer.declares (layer : Layer) (name : String) : Bool := layer.properties.any (·.name == name)

namespace Class

/-- No class of the lineage declares two properties of one name. -/
def DeclaresOnce (c : Class) : Prop := ∀ d ∈ c.lineage, (d.own.properties.map (·.name)).Nodup

instance (c : Class) : Decidable c.DeclaresOnce :=
  inferInstanceAs (Decidable (∀ d ∈ c.lineage, (d.own.properties.map (·.name)).Nodup))

/-- The properties of the lineage with the classes that declare them, from the class up and each
time in order of declaration. A property is left out if a class further down declares its name. -/
def visible (c : Class) : List (Class × Property) :=
  c.lineage.zipIdx.flatMap fun (owner, depth) =>
    (owner.own.properties.filter fun p =>
      (c.lineage.take depth).all fun below => !below.own.declares p.name).map (owner, ·)

end Class

/-! ### The walk that passes over names it has met -/

/-- Of the names in a second list those are passed over that the first one has. -/
theorem firstOfEachName_append (ps more : List Property) :
    firstOfEachName (ps ++ more) =
      firstOfEachName ps ++ (firstOfEachName more).filter fun p => ps.all (·.name != p.name) := by
  induction ps with
  | nil => simp [firstOfEachName]
  | cons first rest ih =>
    simp only [List.cons_append, firstOfEachName, ih, List.filter_append, List.filter_filter,
      List.all_cons]
    congr 3
    funext p
    rw [bne_comm]

/-- No name is listed twice. -/
theorem nodup_names_firstOfEachName (ps : List Property) :
    ((firstOfEachName ps).map (·.name)).Nodup := by
  induction ps with
  | nil => exact List.nodup_nil
  | cons first rest ih =>
    rw [firstOfEachName, List.map_cons, List.nodup_cons]
    refine ⟨by simp, ?_⟩
    exact ih.sublist (List.filter_sublist.map _)

/-- Where no name comes twice nothing is passed over. -/
theorem firstOfEachName_of_nodup {ps : List Property} (h : (ps.map (·.name)).Nodup) :
    firstOfEachName ps = ps := by
  induction ps with
  | nil => rfl
  | cons first rest ih =>
    rw [List.map_cons, List.nodup_cons] at h
    rw [firstOfEachName, ih h.2, List.filter_eq_self.mpr]
    intro p hp
    have hne : p.name ≠ first.name := fun heq => h.1 (heq ▸ List.mem_map_of_mem hp)
    simpa using hne

namespace Layer

variable {layer : Layer} {name : String}

theorem not_declares_iff : layer.declares name = false ↔ layer.property? name = none := by
  simp [declares, property?]

/-- A property whose name is declared once is found. -/
theorem property?_of_mem (h : (layer.properties.map (·.name)).Nodup) {p : Property}
    (hp : p ∈ layer.properties) : layer.property? p.name = some p := by
  cases hfound : layer.property? p.name with
  | none =>
    have hdeclared : layer.declares p.name := List.any_eq_true.mpr ⟨p, hp, beq_self_eq_true _⟩
    rw [not_declares_iff.mpr hfound] at hdeclared
    cases hdeclared
  | some q =>
    obtain ⟨hname, hq⟩ := name_of_property? hfound
    rw [List.inj_on_of_nodup_map h hq hp hname]

/-- What is found is what a search among the properties comes to, from either end. -/
theorem property?_eq_find? (h : (layer.properties.map (·.name)).Nodup) :
    layer.property? name = layer.properties.find? (·.name == name) := by
  cases hfound : layer.properties.find? (·.name == name) with
  | none => simpa [property?] using hfound
  | some p =>
    have hname : p.name = name := by simpa using List.find?_some hfound
    rw [← hname]
    exact property?_of_mem h (List.mem_of_find?_eq_some hfound)

end Layer

namespace Class

variable {c : Class}

theorem layers_of_parent {parent : Class} (h : c.parent = some parent) :
    c.layers = c.own :: parent.layers := by
  rcases c with ⟨own, _ | ⟨above, ancestors⟩⟩
  · cases h
  · cases h
    rfl

theorem layers_of_root (h : c.parent = none) : c.layers = [c.own] := by
  rcases c with ⟨own, _ | ⟨above, ancestors⟩⟩
  · rfl
  · cases h

namespace DeclaresOnce

theorem own (h : c.DeclaresOnce) : (c.own.properties.map (·.name)).Nodup :=
  h c (mem_lineage_self c)

theorem parent (h : c.DeclaresOnce) {parent : Class} (hparent : c.parent = some parent) :
    parent.DeclaresOnce := fun d hd => h d (mem_lineage_of_parent hparent hd)

end DeclaresOnce

/-! ### One step up -/

theorem visible_of_root (h : c.parent = none) : c.visible = c.own.properties.map (c, ·) := by
  simp [visible, lineage_of_root h]

/-- The class sees its own properties and, behind them, what its parent sees and it does not
hide. -/
theorem visible_of_parent {parent : Class} (h : c.parent = some parent) :
    c.visible = c.own.properties.map (c, ·) ++
      parent.visible.filter fun found => !c.own.declares found.2.name := by
  have hshift : parent.lineage.zipIdx 1 =
      parent.lineage.zipIdx.map fun (owner, depth) => (owner, depth + 1) := by
    rw [List.zipIdx_succ]
  rw [visible, visible, lineage_of_parent h, List.zipIdx_cons, List.flatMap_cons, Nat.zero_add,
    hshift, List.flatMap_map, List.filter_flatMap]
  congr 1
  · simp
  · simp [List.filter_map, Function.comp_def]

theorem allProperties_of_root (h : c.parent = none) (honce : c.DeclaresOnce) :
    c.allProperties = c.own.properties := by
  rw [allProperties, layers_of_root h, List.flatMap_singleton, firstOfEachName_of_nodup honce.own]

/-- The list goes on with that of the parent, except for names that the class itself declares. -/
theorem allProperties_of_parent {parent : Class} (h : c.parent = some parent)
    (honce : c.DeclaresOnce) :
    c.allProperties = c.own.properties ++
      parent.allProperties.filter fun p => !c.own.declares p.name := by
  rw [allProperties, layers_of_parent h, List.flatMap_cons, firstOfEachName_append,
    firstOfEachName_of_nodup honce.own]
  congr 2
  funext p
  rw [Layer.declares, List.not_any_eq_all_not]
  rfl

/-! ### The list and the look-ups -/

/-- The walk lists the visible properties. -/
theorem allProperties_eq_visible (h : c.DeclaresOnce) :
    c.allProperties = c.visible.map (·.2) := by
  induction c using parentInduction with
  | root c hroot =>
    rw [allProperties_of_root hroot h, visible_of_root hroot]
    simp [Function.comp_def]
  | derived c parent hparent ih =>
    rw [allProperties_of_parent hparent h, visible_of_parent hparent, ih (h.parent hparent),
      List.map_append, List.filter_map]
    simp [Function.comp_def]

/-- A search among properties is not disturbed by the class that is paired with them. -/
theorem find?_map_owner (ps : List Property) (name : String) :
    (ps.map (c, ·)).find? (·.2.name == name) = (ps.find? (·.name == name)).map (c, ·) :=
  List.find?_map

/-- A look-up finds the visible property of the name. -/
theorem property?_eq_find?_visible (h : c.DeclaresOnce) (name : String) :
    c.property? name = c.visible.find? (·.2.name == name) := by
  induction c using parentInduction with
  | root c hroot =>
    rw [property?_eq, hroot, visible_of_root hroot, find?_map_owner, Layer.property?_eq_find? h.own]
    cases hown : c.own.properties.find? (·.name == name) <;> simp
  | derived c parent hparent ih =>
    rw [property?_eq, hparent, visible_of_parent hparent, List.find?_append, find?_map_owner,
      Option.bind_some, ih (h.parent hparent)]
    cases hown : c.own.property? name with
    | some p =>
      rw [Layer.property?_eq_find? h.own] at hown
      simp [hown]
    | none =>
      -- A name that the class does not declare is not hidden by it.
      have hshown : (parent.visible.filter fun found => !c.own.declares found.2.name).find?
          (·.2.name == name) = parent.visible.find? (·.2.name == name) := by
        rw [List.find?_filter]
        congr 1
        funext found
        by_cases hname : found.2.name = name
        · simp [hname, Layer.not_declares_iff.mpr hown]
        · simp [hname]
      rw [Layer.property?_eq_find? h.own] at hown
      rw [hshown]
      simp [hown]

/-- The property that is found is declared by the first class, on the way up, that declares the
name. -/
theorem most_derived_of_property? {name : String} {owner : Class} {p : Property}
    (h : c.property? name = some (owner, p)) :
    ∃ below above, c.lineage = below ++ owner :: above ∧
      (∀ d ∈ below, d.own.declares name = false) ∧ p ∈ owner.own.properties ∧ p.name = name := by
  obtain ⟨below, d, above, hlineage, hfound, hbelow⟩ := List.findSome?_eq_some_iff.mp h
  obtain ⟨q, hq, hpair⟩ := Option.map_eq_some_iff.mp hfound
  obtain ⟨rfl, rfl⟩ := Prod.mk.inj hpair
  obtain ⟨hname, hmem⟩ := Layer.name_of_property? hq
  refine ⟨below, above, hlineage, ?_, hmem, hname⟩
  intro e he
  rw [Layer.not_declares_iff]
  simpa using hbelow e he

/-- The properties of a built class have names of their own. -/
theorem BuiltOn.nodup_names {base : Option Class} (h : c.BuiltOn base) :
    (c.own.properties.map (·.name)).Nodup := by
  obtain ⟨b, r, hb, hbuild⟩ := h.exists_builder
  obtain ⟨log, hrecords, -⟩ := hb.exists_log
  rw [Builder.build_eq_ok hbuild, Draft.names_compile]
  exact hrecords.distinct

/-- Where no class of the lineage declares a name twice, the list of all properties and the look-up
by name tell the same story. The list has an entry for a name exactly if the name is found, one
entry only, and that is the property which is found: the declaration of the most derived class. In
the list each class comes in its own order, from the class up, without what is hidden. A class that
a builder makes never declares a name twice. -/
theorem lists_what_is_found (h : c.DeclaresOnce) :
    (c.allProperties.map (·.name)).Nodup ∧
    (∀ name, (∃ p ∈ c.allProperties, p.name = name) ↔ (c.property? name).isSome) ∧
    (∀ p ∈ c.allProperties, ∃ owner, c.property? p.name = some (owner, p)) ∧
    (∀ name owner p, c.property? name = some (owner, p) → p ∈ c.allProperties ∧
      ∃ below above, c.lineage = below ++ owner :: above ∧
        (∀ d ∈ below, d.own.declares name = false) ∧ p ∈ owner.own.properties ∧ p.name = name) ∧
    c.allProperties = c.visible.map (·.2) ∧
    ∀ base built, BuiltOn base built → (built.own.properties.map (·.name)).Nodup := by
  have hlist := allProperties_eq_visible h
  have hdistinct : (c.allProperties.map (·.name)).Nodup := nodup_names_firstOfEachName _
  have hlisted : ∀ name owner p, c.property? name = some (owner, p) →
      p ∈ c.allProperties ∧ p.name = name := by
    intro name owner p hp
    rw [property?_eq_find?_visible h] at hp
    rw [hlist]
    exact ⟨List.mem_map_of_mem (List.mem_of_find?_eq_some hp), by simpa using List.find?_some hp⟩
  have hfound : ∀ p ∈ c.allProperties, ∃ owner, c.property? p.name = some (owner, p) := by
    intro p hp
    cases hlookup : c.property? p.name with
    | none =>
      rw [property?_eq_find?_visible h, List.find?_eq_none] at hlookup
      rw [hlist] at hp
      obtain ⟨found, hmem, rfl⟩ := List.mem_map.mp hp
      exact absurd (beq_self_eq_true _) (hlookup found hmem)
    | some found =>
      obtain ⟨owner, q⟩ := found
      obtain ⟨hq, hname⟩ := hlisted p.name owner q hlookup
      -- The list has one entry of the name.
      obtain rfl := List.inj_on_of_nodup_map hdistinct hq hp hname
      exact ⟨owner, rfl⟩
  refine ⟨hdistinct, ?_, hfound, ?_, hlist, fun base built hbuilt => hbuilt.nodup_names⟩
  · intro name
    constructor
    · rintro ⟨p, hp, rfl⟩
      obtain ⟨owner, howner⟩ := hfound p hp
      rw [howner]
      rfl
    · intro hsome
      obtain ⟨⟨owner, p⟩, hp⟩ := Option.isSome_iff_exists.mp hsome
      exact ⟨p, hlisted name owner p hp⟩
  · intro name owner p hp
    exact ⟨(hlisted name owner p hp).1, most_derived_of_property? hp⟩

/-- The taxi lists its own label before the seats of the car, and not the label of the vehicle. -/
theorem lists_what_is_found_taxi :
    taxi.DeclaresOnce ∧
      taxi.allProperties.map (fun p => (p.name, p.ty)) = [("Label", .int), ("Seats", .int)] ∧
      taxi.visible.map (fun (owner, p) => (owner.name, p.name)) =
        [("Taxi", "Label"), ("Car", "Seats")] ∧
      (taxi.property? "Label").isSome ∧ (taxi.property? "wheels").isSome = false := by
  have honce : taxi.DeclaresOnce := by decide
  obtain ⟨-, hfound, -⟩ := lists_what_is_found honce
  have hwheels : ¬ ∃ p ∈ taxi.allProperties, p.name = "wheels" := by decide
  rw [hfound, Bool.not_eq_true] at hwheels
  exact ⟨honce, rfl, rfl, (hfound "Label").mp (by decide), hwheels⟩

/-- A name that a class declares twice is listed with the first declaration and found with the
last. -/
example :
    let declaration : Declaration :=
      { name := "Parcel"
        properties := [{ name := "Size", ty := .int }, { name := "Size", ty := .str }] }
    let parcel := declaration.members ⟨0, 0⟩ "DynamicAssembly"
    ¬ parcel.DeclaresOnce ∧ parcel.allProperties.map (·.ty) = [.int] ∧
      (parcel.property? "Size").map (·.2.ty) = some .str :=
  ⟨by decide, rfl, rfl⟩

end Class

end ClassSynthesis
