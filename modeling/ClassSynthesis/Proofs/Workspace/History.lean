import ClassSynthesis.Class.Shape
import ClassSynthesis.Proofs.Builder.Lifecycle
import ClassSynthesis.Proofs.Class.Genealogy
import ClassSynthesis.Workspace

/-!
# The history of a workspace

Registries are created in a workspace, and classes are declared, realized and built in them, on top
of classes that came about before, in any of the registries. A registry numbers its own classes, and
the workspace numbers the registries. So the classes of all registries together are a genealogy, and
what is told of types by the identities of classes can be relied on.
-/

namespace ClassSynthesis

/-- The draft is for a registry that was created and on top of a class that came about. -/
structure Draft.BelongsTo (d : Draft) (w : Workspace) (made : List Class) : Prop where
  /-- Its registry was created. -/
  registry : d.registry < w.registries.size
  /-- The class that the type derives from is there. -/
  base : ∀ c, d.baseClass = some c → c ∈ made

/-- A draft is opened for the registry that it is opened in. -/
theorem Draft.registry_of_start {r : Registry} {name : String} {container : Option String}
    {base : Option Class} {d : Draft} (h : start r name container base = .ok d) :
    d.registry = r.key := by
  unfold start at h
  split at h
  · rw [← Except.ok.inj h]
  · cases h

/-- What belongs to a workspace belongs to it when it has grown. -/
theorem Draft.BelongsTo.mono {d : Draft} {w w' : Workspace} {made made' : List Class}
    (h : d.BelongsTo w made) (hsize : w.registries.size ≤ w'.registries.size)
    (hmade : made <+: made') : d.BelongsTo w' made' where
  registry := Nat.lt_of_lt_of_le h.registry hsize
  base := fun c hc => hmade.subset (h.base c hc)

/-- Whether a draft belongs to a workspace is settled when it is opened. -/
theorem Draft.BelongsTo.of_opening {d d' : Draft} {w : Workspace} {made : List Class}
    (h : d.BelongsTo w made) (hopening : d'.opening = d.opening) : d'.BelongsTo w made where
  registry := by
    have hregistry : d'.opening.registry = d.opening.registry := by rw [hopening]
    exact Nat.lt_of_le_of_lt (Nat.le_of_eq hregistry) h.registry
  base := by
    intro c hc
    rw [Draft.baseClass_eq_of_opening hopening] at hc
    exact h.base c hc

namespace Registry.Registers

variable {r left : Registry} {answer : Except Error Class}

/-- A call in a registry leaves it where it is in the workspace. -/
theorem key_eq (h : Registers r answer left) : left.key = r.key := by
  cases h <;> rfl

/-- It makes no number free again. -/
theorem nextId_le (h : Registers r answer left) : r.nextId ≤ left.nextId := by
  cases h with
  | added hkey => exact Nat.le_succ r.nextId
  | skipped e => exact Nat.le_succ r.nextId
  | refused e => exact Nat.le_refl r.nextId

/-- A class that is registered gets the next number. -/
theorem key_of_ok {c : Class} (h : Registers r (.ok c) left) :
    c.key = ⟨r.key, r.nextId⟩ ∧ left.nextId = r.nextId + 1 := by
  cases h with
  | added hkey => exact ⟨hkey, rfl⟩

end Registry.Registers

namespace Workspace

@[simp] theorem size_setRegistry (w : Workspace) (r : Registry) :
    (w.setRegistry r).registries.size = w.registries.size := by
  simp [setRegistry]

@[simp] theorem size_addRegistry (w : Workspace) (options : Options) :
    (addRegistry options w).2.registries.size = w.registries.size + 1 := Array.size_push _

/-- Creating a registry leaves the others alone. -/
theorem registry_addRegistry {w : Workspace} {key : Nat} (h : key < w.registries.size)
    (options : Options) : (addRegistry options w).2.registry key = w.registry key := by
  simp [addRegistry, registry, Array.getElem?_push_lt h, h]

/-- A new registry gets the next place. -/
theorem registry_addRegistry_self (w : Workspace) (options : Options) :
    (addRegistry options w).2.registry w.registries.size =
      Registry.empty w.registries.size options := by
  simp [addRegistry, registry]

/-- Something done with a registry is done in its place. -/
theorem onRegistry_eq {σ α : Type} (key : Nat) (action : EStateM Error (σ × Registry) α) (s : σ)
    (w : Workspace) :
    outcomeOf (onRegistry key action (s, w)) = outcomeOf (action (s, w.registry key)) ∧
      (stateOf (onRegistry key action (s, w))).2 =
        w.setRegistry (stateOf (action (s, w.registry key))).2 := by
  rw [onRegistry]
  cases action (s, w.registry key) <;> exact ⟨rfl, rfl⟩

theorem declare_eq (key : Nat) (d : Declaration) (w : Workspace) :
    outcomeOf (declare key d w) = outcomeOf (Registry.declare d (w.registry key)) ∧
      stateOf (declare key d w) = w.setRegistry (stateOf (Registry.declare d (w.registry key))) := by
  rw [declare]
  cases Registry.declare d (w.registry key) <;> exact ⟨rfl, rfl⟩

/-- One step in a workspace, with the classes that came about before it and after it. A step that
fails makes no class. -/
inductive Step (w : Workspace) (made : List Class) : Workspace → List Class → Prop
  /-- Create a registry. -/
  | addRegistry (options : Options) : Step w made (addRegistry options w).2 made
  /-- Declare a class in a registry that was created, on top of a class that is there. -/
  | declare (key : Nat) (d : Declaration) (hkey : key < w.registries.size)
      (hparent : ∀ c, d.parent = some c → c ∈ made) :
      Step w made (stateOf (declare key d w))
        (made ++ (outcomeOf (declare key d w)).toOption.toList)
  /-- Realize a draft. -/
  | realize (d : Draft) (h : d.BelongsTo w made) :
      Step w made (stateOf (realize (d, w))).2
        (made ++ (outcomeOf (realize (d, w))).toOption.toList)
  /-- Build the class of a builder. -/
  | build (b : Builder) (h : b.draft.BelongsTo w made) :
      Step w made (stateOf (build (b, w))).2 (made ++ (outcomeOf (build (b, w))).toOption.toList)
  /-- Build the class of a builder with a source. -/
  | buildFromSource (b : SourceBuilder) (h : b.builder.draft.BelongsTo w made) :
      Step w made (stateOf (buildFromSource (b, w))).2
        (made ++ (outcomeOf (buildFromSource (b, w))).toOption.toList)

/-- What a step comes to: a registry is created, or one call is made in one registry, and a class
that is registered there is on top of one that was there before. -/
theorem Step.comes_to {w w' : Workspace} {made made' : List Class} (h : Step w made w' made') :
    (∃ options, w' = (Workspace.addRegistry options w).2 ∧ made' = made) ∨
    ∃ key answer left, key < w.registries.size ∧
      Registry.Registers (w.registry key) answer left ∧
      (∀ c, answer = .ok c → ∀ parent, c.parent = some parent → parent ∈ made) ∧
      w' = w.setRegistry left ∧ made' = made ++ answer.toOption.toList := by
  cases h with
  | addRegistry options => exact .inl ⟨options, rfl, rfl⟩
  | declare key d hkey hparent =>
    obtain ⟨houtcome, hstate⟩ := Workspace.declare_eq key d w
    rw [houtcome]
    refine .inr ⟨key, _, _, hkey, (w.registry key).registers_declare d, ?_, hstate, rfl⟩
    intro c hc parent hp
    cases hrun : Registry.declare d (w.registry key) with
    | error e left => simp [hrun, outcomeOf] at hc
    | ok declared left =>
      obtain rfl : declared = c := by simpa [hrun, outcomeOf] using hc
      rw [Class.parent_of_declare hrun] at hp
      exact hparent parent hp
  | realize d hd =>
    obtain ⟨houtcome, hstate⟩ := onRegistry_eq d.registry Draft.realize d w
    rw [Workspace.realize, houtcome]
    refine .inr ⟨_, _, _, hd.registry, Registry.registers_realize _ d, ?_, hstate, rfl⟩
    intro c hc parent hp
    rw [Draft.realize_eq_ok hc, Draft.parent_compile] at hp
    exact hd.base parent hp
  | build b hb =>
    obtain ⟨houtcome, hstate⟩ := onRegistry_eq b.draft.registry Builder.build b w
    rw [Workspace.build, houtcome]
    refine .inr ⟨_, _, _, hb.registry, Registry.registers_build _ b, ?_, hstate, rfl⟩
    intro c hc parent hp
    rw [Builder.build_eq_ok hc, Draft.parent_compile] at hp
    exact hb.base parent hp
  | buildFromSource b hb =>
    obtain ⟨houtcome, hstate⟩ := onRegistry_eq b.builder.draft.registry SourceBuilder.build b w
    rw [Workspace.buildFromSource, houtcome]
    refine .inr ⟨_, _, _, hb.registry, Registry.registers_next _ (.buildFromSource b), ?_, hstate,
      rfl⟩
    intro c hc parent hp
    rw [Builder.build_eq_ok (SourceBuilder.build_behind hc), Draft.parent_compile] at hp
    exact hb.base parent hp

/-- A step takes no registry and no class away. -/
theorem Step.grows {w w' : Workspace} {made made' : List Class} (h : Step w made w' made') :
    w.registries.size ≤ w'.registries.size ∧ made <+: made' := by
  rcases h.comes_to with ⟨options, rfl, rfl⟩ | ⟨key, answer, left, -, -, -, rfl, rfl⟩
  · rw [size_addRegistry]
    exact ⟨Nat.le_succ _, List.prefix_rfl⟩
  · rw [size_setRegistry]
    exact ⟨Nat.le_refl _, List.prefix_append _ _⟩

/-- A workspace with the classes that have come about in it, in order. -/
inductive History : Workspace → List Class → Prop
  /-- At first there is nothing. -/
  | start : History {} []
  /-- One more step. -/
  | step {w w' : Workspace} {made made' : List Class} (h : History w made)
      (hstep : Step w made w' made') : History w' made'

/-- A workspace is in order with the classes that have come about in it. -/
structure Keeps (w : Workspace) (made : List Class) : Prop where
  /-- Each registry is in its place. -/
  places : ∀ key, key < w.registries.size → (w.registry key).key = key
  /-- The numbers of all classes were given out by their registries. -/
  below : ∀ c ∈ made, c.key.registry < w.registries.size ∧
    c.key.id < (w.registry c.key.registry).nextId
  /-- The classes came about one on top of the other, with identities of their own. -/
  genealogy : Genealogy made

/-- At first a workspace is in order. -/
theorem keeps_empty : Keeps {} [] where
  places := fun key hkey => absurd hkey (Nat.not_lt_zero key)
  below := by simp
  genealogy := .nil

namespace Keeps

variable {w w' : Workspace} {made made' : List Class}

/-- A new registry does not disturb the order. -/
theorem addRegistry (h : w.Keeps made) (options : Options) :
    (addRegistry options w).2.Keeps made where
  places := by
    intro key hkey
    rw [size_addRegistry] at hkey
    rcases Nat.lt_succ_iff_lt_or_eq.mp hkey with hlt | rfl
    · rw [registry_addRegistry hlt]
      exact h.places key hlt
    · rw [registry_addRegistry_self]
      rfl
  below := by
    intro c hc
    obtain ⟨hregistry, hid⟩ := h.below c hc
    rw [registry_addRegistry hregistry, size_addRegistry]
    exact ⟨Nat.lt_succ_of_lt hregistry, hid⟩
  genealogy := h.genealogy

/-- A call in one registry keeps the order, if the class that it may register is on top of one that
is there. -/
theorem registers (h : w.Keeps made) {key : Nat} (hkey : key < w.registries.size)
    {answer : Except Error Class} {left : Registry}
    (hcall : Registry.Registers (w.registry key) answer left)
    (hparent : ∀ c, answer = .ok c → ∀ parent, c.parent = some parent → parent ∈ made) :
    (w.setRegistry left).Keeps (made ++ answer.toOption.toList) := by
  have hplace : left.key = key := hcall.key_eq.trans (h.places key hkey)
  have hself : (w.setRegistry left).registry key = left := by
    have hleft := registry_setRegistry_self (w := w) (r := left) (hplace ▸ hkey)
    rwa [hplace] at hleft
  have hother {other : Nat} (hne : other ≠ key) :
      (w.setRegistry left).registry other = w.registry other :=
    registry_setRegistry_of_ne fun heq => hne (heq.symm.trans hplace)
  have hbelow : ∀ c ∈ made, c.key.registry < (w.setRegistry left).registries.size ∧
      c.key.id < ((w.setRegistry left).registry c.key.registry).nextId := by
    intro c hc
    obtain ⟨hregistry, hid⟩ := h.below c hc
    rw [size_setRegistry]
    refine ⟨hregistry, ?_⟩
    by_cases hsame : c.key.registry = key
    · rw [hsame] at hid ⊢
      rw [hself]
      exact Nat.lt_of_lt_of_le hid hcall.nextId_le
    · rwa [hother hsame]
  have hplaces : ∀ other, other < (w.setRegistry left).registries.size →
      ((w.setRegistry left).registry other).key = other := by
    intro other hlt
    rw [size_setRegistry] at hlt
    by_cases hsame : other = key
    · rw [hsame, hself, hplace]
    · rw [hother hsame]
      exact h.places other hlt
  cases answer with
  | error e => simpa [Except.toOption] using Keeps.mk hplaces hbelow h.genealogy
  | ok c =>
    obtain ⟨hnumber, hnext⟩ := hcall.key_of_ok
    rw [h.places key hkey] at hnumber
    refine ⟨hplaces, ?_, .snoc h.genealogy (hparent c rfl) ?_⟩
    · intro d hd
      rcases List.mem_append.mp hd with hd | hd
      · exact hbelow d hd
      · obtain rfl := List.mem_singleton.mp hd
        rw [hnumber, size_setRegistry, hself, hnext]
        exact ⟨hkey, Nat.lt_succ_self _⟩
    · -- An earlier class of the same registry has a smaller number.
      intro d hd heq
      have hid := (h.below d hd).2
      rw [heq, hnumber] at hid
      exact Nat.lt_irrefl _ hid

end Keeps

/-- Each step keeps the order. -/
theorem Keeps.step {w w' : Workspace} {made made' : List Class} (h : w.Keeps made)
    (hstep : Step w made w' made') : w'.Keeps made' := by
  rcases hstep.comes_to with
    ⟨options, rfl, rfl⟩ | ⟨key, answer, left, hkey, hcall, hparent, rfl, rfl⟩
  · exact h.addRegistry options
  · exact h.registers hkey hcall hparent

/-- A draft that is opened in a workspace belongs to it. -/
theorem Keeps.belongsTo_of_start {w : Workspace} {made : List Class} (h : w.Keeps made)
    {key : Nat} (hkey : key < w.registries.size) {name : String} {container : Option String}
    {base : Option Class} (hbase : ∀ c, base = some c → c ∈ made) {d : Draft}
    (hstart : Draft.start (w.registry key) name container base = .ok d) :
    d.BelongsTo w made where
  registry := by
    rw [Draft.registry_of_start hstart, h.places key hkey]
    exact hkey
  base := by
    intro c hc
    rw [(Draft.base_of_start hstart).1] at hc
    exact hbase c hc

/-- A workspace is in order throughout its history. -/
theorem History.keeps {w : Workspace} {made : List Class} (h : History w made) : w.Keeps made := by
  induction h with
  | start => exact keeps_empty
  | step h hstep ih => exact ih.step hstep

end Workspace

/-- A class with a constructor that matches the arguments exactly makes instances from them, through
the first constructor that accepts them. -/
theorem Instance.create_of_matchesExactly {c : Class} {arguments : List Value} {k : Constructor}
    (hk : k ∈ c.constructors) (hmatches : k.matchesExactly arguments) :
    ∃ first, c.constructors.find? (·.accepts arguments) = some first ∧
      create c arguments =
        (runConstructor c.own c.ancestors first arguments).after (blank c) := by
  have haccepts := Constructor.accepts_of_matchesExactly hmatches
  have hsome : c.constructors ≠ [] := List.ne_nil_of_mem hk
  cases hindex : c.constructors.findIdx? (·.accepts arguments) with
  | none =>
    rw [List.findIdx?_eq_none_iff] at hindex
    simp [hindex k hk] at haccepts
  | some target =>
    obtain ⟨hlt, hfirst, hbefore⟩ := List.findIdx?_eq_some_iff_getElem.mp hindex
    have hfound : c.constructors.find? (·.accepts arguments) = some c.constructors[target] := by
      rw [List.find?_eq_some_iff_getElem]
      exact ⟨hfirst, target, hlt, rfl, by simpa using hbefore⟩
    refine ⟨_, hfound, ?_⟩
    rw [create, if_neg (by simpa using hsome), hindex]
    simp only [construct, List.getElem?_eq_getElem hlt, hfirst, if_true]

namespace Workspace

/-- What is told by the identities of classes can be relied on. Among the classes of a workspace, of
all its registries, the subclass relation is an order, and the superclasses of one class form a
chain. No two of them are the same, whatever else they have in common. The type of a class accepts
the objects of its subclasses and no others, so it accepts what the type of a subclass accepts. A
value of exactly the type is accepted, so arguments that match a constructor exactly are accepted by
it, and a class that has such a constructor finds one to call. -/
theorem History.nominal {w : Workspace} {made : List Class} (h : w.History made) :
    (∀ c ∈ made, c.isSubclassOf c) ∧
    (∀ c ∈ made, ∀ d ∈ made, ∀ e ∈ made,
      c.isSubclassOf d → d.isSubclassOf e → c.isSubclassOf e) ∧
    (∀ c ∈ made, ∀ d ∈ made, c.isSubclassOf d → d.isSubclassOf c → c = d) ∧
    (∀ c ∈ made, ∀ d ∈ made, ∀ e ∈ made,
      c.isSubclassOf d → c.isSubclassOf e → d.isSubclassOf e ∨ e.isSubclassOf d) ∧
    made.Pairwise (fun c d => c.same d = false) ∧
    (∀ (c : Class) identity (i : Instance),
      c.ty.accepts (.object identity i) = i.cls.isSubclassOf c) ∧
    (∀ c ∈ made, ∀ d ∈ made, d.isSubclassOf c → ∀ value : Value,
      (∀ identity i, value = .object identity i → i.cls ∈ made) →
        d.ty.accepts value → c.ty.accepts value) ∧
    (∀ (ty : Ty) value, ty.matchesExactly value → ty.accepts value) ∧
    (∀ (k : Constructor) arguments, k.matchesExactly arguments → k.accepts arguments) ∧
    ∀ (c : Class) arguments, (∃ k ∈ c.constructors, k.matchesExactly arguments) →
      ∃ first, c.constructors.find? (·.accepts arguments) = some first ∧
        Instance.create c arguments =
          (runConstructor c.own c.ancestors first arguments).after (.blank c) := by
  have hgenealogy := h.keeps.genealogy
  refine ⟨fun c _ => c.isSubclassOf_refl, ?_, ?_, ?_, hgenealogy.pairwise_not_same,
    fun _ _ _ => rfl, ?_, fun _ _ => Ty.accepts_of_matchesExactly,
    fun _ _ => Constructor.accepts_of_matchesExactly, ?_⟩
  · intro c hc d hd e he
    exact hgenealogy.isSubclassOf_trans hc hd he
  · intro c hc d hd
    exact hgenealogy.isSubclassOf_antisymm hc hd
  · intro c hc d hd e he
    exact hgenealogy.isSubclassOf_linear hc hd he
  · intro c hc d hd hdc value hvalue
    exact hgenealogy.accepts_of_isSubclassOf hc hd hdc hvalue
  · rintro c arguments ⟨k, hk, hmatches⟩
    exact Instance.create_of_matchesExactly hk hmatches

/-- The same vehicle, declared in a second registry. -/
def otherVehicle : Class := { Class.vehicle with own := { Class.vehicle.own with key := ⟨1, 0⟩ } }

/-- The car, as the second class of the first registry. -/
def secondCar : Class := Class.carBuilder.draft.compile ⟨0, 1⟩

/-- Two registries, a vehicle in each, and a car on top of the first vehicle. -/
theorem history_fleet :
    ∃ w : Workspace, w.History [Class.vehicle, otherVehicle, secondCar] := by
  have hregistries : History _ [] := (History.start.step (.addRegistry {})).step (.addRegistry {})
  have hvehicle : History _ [Class.vehicle] :=
    hregistries.step (.declare 0 Class.vehicleDeclaration (by decide) (by rintro c ⟨⟩))
  have hother : History _ [Class.vehicle, otherVehicle] :=
    hvehicle.step (.declare 1 Class.vehicleDeclaration (by decide) (by rintro c ⟨⟩))
  have hcar : History _ [Class.vehicle, otherVehicle, secondCar] :=
    hother.step (.build Class.carBuilder ⟨by decide, by rintro c ⟨⟩; exact List.mem_cons_self⟩)
  exact ⟨_, hcar⟩

/-- The two vehicles have one name, one number and one shape, but are not the same class. The type
of the vehicle accepts a car, since the type of the car does, and a vehicle can be made from
arguments that match its constructor exactly. -/
theorem nominal_fleet :
    ∃ w : Workspace, w.History [Class.vehicle, otherVehicle, secondCar] ∧
      Class.vehicle.shape = otherVehicle.shape ∧
      Class.vehicle.key.id = otherVehicle.key.id ∧
      Class.vehicle.same otherVehicle = false ∧
      secondCar.isSubclassOf Class.vehicle ∧
      Class.vehicle.ty.accepts (.object 0 (.blank secondCar)) ∧
      ∃ first, Class.vehicle.constructors.find? (·.accepts [.int 4, .str "Beetle"]) = some first ∧
        Instance.create Class.vehicle [.int 4, .str "Beetle"] =
          (runConstructor Class.vehicle.own Class.vehicle.ancestors first
            [.int 4, .str "Beetle"]).after (.blank Class.vehicle) := by
  obtain ⟨w, h⟩ := history_fleet
  obtain ⟨-, -, -, -, hdistinct, -, haccepts, -, -, hcreates⟩ := h.nominal
  have hcar : secondCar ∈ [Class.vehicle, otherVehicle, secondCar] := by simp
  refine ⟨w, h, rfl, rfl, ?_, rfl, ?_, ?_⟩
  · exact List.rel_of_pairwise_cons hdistinct List.mem_cons_self
  · refine haccepts _ List.mem_cons_self secondCar hcar rfl _ ?_ rfl
    rintro identity i ⟨⟩
    exact hcar
  · exact hcreates Class.vehicle _ ⟨_, List.mem_cons_self, rfl⟩

end Workspace

end ClassSynthesis
