import ClassSynthesis.Proofs.Builder.Replay
import ClassSynthesis.Proofs.Class.Built
import ClassSynthesis.Proofs.Class.Heading
import ClassSynthesis.Proofs.Class.Safety

/-!
# A built class is the log of its builder

The compilation of a draft turns each property into a slot, two accessors and a declaration, in
order. So the class that a builder builds is determined by what the builder was opened with and by
its log: the members come from the definitions in the log, their attributes and those of the class
from the attachments, and everything else from the base class.
-/

namespace ClassSynthesis

/-- A property of a draft as the class declares it, if it is the one at this place behind so many
methods and slots. -/
def DraftProperty.compile (methods slots index : Nat) (p : DraftProperty) : Property :=
  { name := p.name
    ty := p.ty
    getter := some (methods + 2 * index)
    setter := some (methods + 2 * index + 1)
    slot := some (slots + index)
    attributes := p.attributes }

namespace Draft

/-- The slots of the properties come behind those that are there. -/
theorem slots_compileProperties (properties : List DraftProperty) (layer : Layer) :
    (properties.foldl compileProperty layer).slots =
      layer.slots ++ properties.map fun p => ⟨p.slotName, p.ty⟩ := by
  induction properties generalizing layer with
  | nil => simp
  | cons p rest ih => simp [ih, compileProperty]

/-- The properties come in order, with two methods and one slot each. -/
theorem properties_compileProperties (properties : List DraftProperty) (layer : Layer) :
    (properties.foldl compileProperty layer).properties =
      layer.properties ++
        properties.mapIdx (DraftProperty.compile layer.methods.length layer.slots.length) := by
  induction properties generalizing layer with
  | nil => simp
  | cons p rest ih =>
    have hfirst : compileProperty layer p =
        { layer with
          slots := layer.slots ++ [⟨p.slotName, p.ty⟩]
          methods := layer.methods ++ [Layer.getterMethod p.name p.ty layer.slots.length,
            Layer.setterMethod p.name p.ty layer.slots.length]
          properties := layer.properties ++
            [p.compile layer.methods.length layer.slots.length 0] } := rfl
    have hshift : DraftProperty.compile (layer.methods.length + 2) (layer.slots.length + 1) =
        fun index => DraftProperty.compile layer.methods.length layer.slots.length (index + 1) := by
      funext index q
      simp only [DraftProperty.compile, Property.mk.injEq, Option.some.injEq, true_and, and_true]
      omega
    rw [List.foldl_cons, ih, hfirst]
    simp [List.mapIdx_cons, hshift]

variable (d : Draft) (key : ClassKey)

/-- The slots of the base class, none without one. -/
def baseSlots : List Slot := (d.baseClass.map Class.slots).getD []

theorem slots_compile : (d.compile key).slots =
    d.baseSlots ++ d.properties.map fun p => ⟨p.slotName, p.ty⟩ :=
  slots_compileProperties d.properties _

theorem properties_compile : (d.compile key).own.properties =
    d.properties.mapIdx (DraftProperty.compile 0 d.baseSlots.length) :=
  (properties_compileProperties d.properties _).trans (List.nil_append _)

/-- The compiled properties have the names that they have in the draft. -/
theorem names_compile :
    (d.compile key).own.properties.map (·.name) = d.properties.map (·.name) := by
  rw [d.properties_compile]
  exact List.ext_getElem? fun index => by simp [DraftProperty.compile, Function.comp_def]

end Draft

/-- A class is a log played back on top of a base class. -/
structure Class.Replays (c : Class) (name container slotPrefix : String) (base : Option Class)
    (log : List LogEntry) : Prop where
  /-- It has the given name. -/
  name : c.name = name
  /-- It is in the given container. -/
  container : c.own.container = container
  /-- Everyone may refer to it. -/
  visibility : c.own.visibility = .external
  /-- It is for what the base is for; without a base it is an ordinary class. -/
  kind : c.own.kind = (base.map (·.own.kind)).getD .plain
  /-- It derives from the base. -/
  parent : c.parent = base
  /-- It declares the properties that were defined and no others, in order; handles are places. -/
  properties : definitions log = c.own.properties.mapIdx fun index p => (⟨index⟩, p.name, p.ty)
  /-- No two of them have one name. -/
  distinct : (c.own.properties.map (·.name)).Nodup
  /-- Each of them has a getter and a setter, for a slot of its own behind those of the base. -/
  stored : ∀ (index : Nat) (p : Property), c.own.properties[index]? = some p →
    p.setter.isSome ∧ p.StoredAt c.own (((base.map (·.slots)).getD []).length + index)
  /-- It declares nothing else. -/
  fields : c.own.fields = []
  /-- Each property has the attributes that were attached to it, in order; nothing was attached to
  anything else. -/
  attributes : ∀ index : Nat, attributesOn (.property ⟨index⟩) log =
    ((c.own.properties[index]?).map (·.attributes)).getD []
  /-- The class has the attributes that were attached to the type, in order. -/
  own : attributesOn .type log = c.own.attributes
  /-- Its slots are those of the base and one for each definition, named after the property. -/
  slots : c.slots = (base.map (·.slots)).getD [] ++
    (definitions log).map fun (_, name, ty) => ⟨slotNameOf slotPrefix name, ty⟩
  /-- Its constructors take what those of the base take, one for one. -/
  constructors : c.constructors.map (·.parameters) =
    ((base.map (·.constructors)).getD []).map (·.parameters)

namespace Draft

variable {d : Draft} {log : List LogEntry}

/-- What a draft with the constructors of its base holds is what it is compiled into. -/
theorem Records.replays_compile (h : d.Records log)
    (hconstructors : d.constructors =
      ((d.baseClass.map Base.ofClass).map Base.forwardings).getD []) (key : ClassKey) :
    (d.compile key).Replays d.name d.container d.slotPrefix d.baseClass log where
  name := congrArg Layer.name (d.heading_compile key)
  container := congrArg Layer.container (d.heading_compile key)
  visibility := congrArg Layer.visibility (d.heading_compile key)
  kind := congrArg Layer.kind (d.heading_compile key)
  parent := d.parent_compile key
  properties := by
    rw [h.properties, d.properties_compile]
    exact List.ext_getElem? fun index => by simp [DraftProperty.compile, Function.comp_def]
  distinct := by
    rw [d.names_compile]
    exact h.distinct
  stored := by
    intro index p hp
    obtain ⟨slot, hstored⟩ := (d.laidOut_compile key).properties p (List.mem_of_getElem? hp)
    rw [d.properties_compile, List.getElem?_mapIdx] at hp
    obtain ⟨q, -, rfl⟩ := Option.map_eq_some_iff.mp hp
    have hplace : d.baseSlots.length + index = slot := Option.some.inj hstored.place
    exact ⟨rfl, hplace ▸ hstored⟩
  fields := d.fields_compile key
  attributes := by
    intro index
    rw [h.attributes, d.properties_compile]
    simp [DraftProperty.compile, Function.comp_def]
  own := h.own.trans (congrArg Layer.attributes (d.heading_compile key)).symm
  slots := by
    have hslots (p : DraftProperty) (hp : p ∈ d.properties) :
        p.slotName = slotNameOf d.slotPrefix p.name := List.map_inj_left.mp h.slotNames p hp
    rw [h.properties, d.slots_compile, baseSlots]
    congr 1
    apply List.ext_getElem?
    intro index
    simp only [List.getElem?_map, List.getElem?_mapIdx]
    cases hp : d.properties[index]? with
    | none => rfl
    | some p => simp [hslots p (List.mem_of_getElem? hp)]
  constructors := by
    have hcompiled : (d.compile key).constructors = d.constructors.map Forwarding.compile :=
      congrArg Layer.constructors (d.heading_compile key)
    rw [hcompiled, hconstructors]
    cases d.baseClass with
    | none => rfl
    | some base =>
      exact List.ext_getElem? fun index => by
        simp [Base.ofClass, Base.forwardings, Forwarding.compile, Function.comp_def]

end Draft

/-- A draft that was just opened has the given name, in the container that is meant, and the slot
prefix of the registry. -/
theorem Draft.naming_of_start {r : Registry} {name : String} {container : Option String}
    {base : Option Class} {d : Draft} (h : start r name container base = .ok d) :
    d.name = name ∧ d.container = r.containerName container ∧
      d.slotPrefix = r.options.slotPrefix := by
  unfold start at h
  split at h
  · rw [← Except.ok.inj h]
    exact ⟨rfl, rfl, rfl⟩
  · cases h

/-- Whatever is done with a builder, the class that it builds in the end is the log of that played
back on the base class which the builder was opened with. -/
theorem Builder.build_replays {ρ : Type} {r₀ : Registry} {name : String} {container : Option String}
    {base : Option Class} {b₀ : Builder} (hstart : start r₀ name container base = .ok b₀)
    (calls : List (Registry × BuilderCall Ty ρ)) {r : Registry} {c : Class}
    (hbuild : outcomeOf (build (b₀.after calls, r)) = .ok c) :
    c.Replays name (r₀.containerName container) r₀.options.slotPrefix base (b₀.log calls) := by
  have hdraft := draft_of_start hstart
  have hopening : (b₀.after calls).draft.opening = b₀.draft :=
    (b₀.opening_after calls).trans (Draft.opening_of_start hdraft)
  have hopened : Draft.start r₀ name container base = .ok (b₀.after calls).draft.opening := by
    rw [hopening, hdraft]
  obtain ⟨hname, hcontainer, hbefore⟩ := Draft.naming_of_start hopened
  obtain ⟨hbase, hconstructors⟩ := Draft.base_of_start hopened
  have hrecords := records_after (Draft.Records.start hdraft) calls
  rw [List.nil_append] at hrecords
  rw [build_eq_ok hbuild, ← hname, ← hcontainer, ← hbefore, ← hbase]
  rw [← hbase] at hconstructors
  exact hrecords.replays_compile hconstructors r.allocate.1

namespace Builder

/-- A builder that was just opened on the vehicle. -/
def newCar : Builder := ⟨{ Class.carBuilder.draft with properties := [] }, none⟩

/-- Seats are defined and marked, and once more through their handle, after an attempt that fails. A
door is defined and marked, but a second mark does not fit, so it is gone. Seats cannot be defined
twice. At the end the car itself is marked. -/
def carCalls : List (Registry × BuilderCall Ty Unit) :=
  [ .defineWith "Seats" .int fun _ => .ofList [⟨marker, [], none⟩],
    .defineWith "Door" .str fun _ => .ofList [⟨marker, [], none⟩, ⟨marker, [.int 1], none⟩],
    .define "Seats" .bool,
    .configure ⟨0⟩ fun _ => .attach ⟨marker, [.int 1], none⟩ fun _ => .ofList [⟨marker, [], none⟩],
    .define "Colour" .str,
    .addAttribute ⟨marker, [], none⟩ ].map ((.empty 0 {}), ·)

/-- The class has seats with two marks and a colour, and is marked itself. -/
theorem build_replays_car :
    start (.empty 0 {}) "Car" none (some Class.vehicle) = .ok newCar ∧
      newCar.log carCalls =
        [.defined ⟨0⟩ "Seats" .int, .attached (.property ⟨0⟩) ⟨marker, 0, [], []⟩,
          .attached (.property ⟨0⟩) ⟨marker, 0, [], []⟩, .defined ⟨1⟩ "Colour" .str,
          .attached .type ⟨marker, 0, [], []⟩] ∧
      outcomeOf (build (newCar.after carCalls, .empty 0 {})) =
        .ok ((newCar.after carCalls).draft.compile ⟨0, 0⟩) ∧
      ((newCar.after carCalls).draft.compile ⟨0, 0⟩).Replays "Car" "DynamicAssembly" "_"
        (some Class.vehicle) (newCar.log carCalls) := by
  have hstart : start (.empty 0 {}) "Car" none (some Class.vehicle) = .ok newCar := rfl
  have hbuild : outcomeOf (build (newCar.after carCalls, .empty 0 {})) =
      .ok ((newCar.after carCalls).draft.compile ⟨0, 0⟩) := rfl
  exact ⟨hstart, rfl, hbuild, build_replays hstart carCalls hbuild⟩

end Builder

end ClassSynthesis
