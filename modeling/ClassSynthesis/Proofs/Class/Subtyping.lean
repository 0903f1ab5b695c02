import ClassSynthesis.Proofs.Class.Safety
import ClassSynthesis.Proofs.Code.Extension
import ClassSynthesis.Proofs.Instance.Agreement

/-!
# Built classes stand in for their bases

A chain of built classes starts with any class that can come about, and each further class is built
on the one before. The last class of a chain is constructed from the same arguments as the first
one, its instances have the values of the first class in front and initial values behind, and they
answer all calls on members that the chain does not declare anew as instances of the first class do.
-/

namespace ClassSynthesis

/-- An instance with further values agrees with the one without them. -/
theorem Instance.Agrees.of_extend {b t : Class} (hb : b.Formed) {i : Instance} (hi : i.IsOf b)
    {rest : List Value} (hlonger : (i.extend t rest).IsOf t) (hidden : List String) :
    Agrees b t hidden i (i.extend t rest) where
  left := hi
  right := hlonger
  slots := by
    intro index name hlabel hname
    have hlt := (List.getElem?_eq_some_iff.mp hlabel).1
    rw [hb.length_memberNames] at hlt
    obtain ⟨value, hvalue⟩ := hi.exists_value hlt
    rw [slot?_extend hvalue, hvalue]

/-- A search that depends on parameters only ends in the same place among constructors with the same
parameters. -/
theorem Constructor.findIdx?_of_parameters {ks others : List Constructor}
    (hsame : ks.map (·.parameters) = others.map (·.parameters)) {suits : Constructor → Bool}
    (hsuits : ∀ k other, k.parameters = other.parameters → suits k = suits other) :
    ks.findIdx? suits = others.findIdx? suits := by
  have hbyParameters (ks : List Constructor) : ks.findIdx? suits =
      (ks.map (·.parameters)).findIdx? fun parameters => suits ⟨parameters, []⟩ := by
    rw [List.findIdx?_map]
    congr 1
    funext k
    exact hsuits k ⟨k.parameters, []⟩ rfl
  rw [hbyParameters, hbyParameters, hsame]

namespace Class

/-- The values of the slots that a class adds to those of another one, before anything is stored. -/
def furtherValues (b t : Class) : List Value := (t.slots.drop b.slotCount).map (·.ty.initial)

/-- Chains of classes from `b` on, each built on the one before, with the names of the properties
that the classes after `b` declare. -/
inductive Chain (b : Class) : List String → Class → Prop
  /-- The class itself. -/
  | refl : Chain b [] b
  /-- One more class, built on the last one. -/
  | build {names : List String} {t u : Class} (h : Chain b names t) (hu : u.BuiltOn (some t)) :
    Chain b (names ++ u.own.properties.map (·.name)) u

variable {b t u : Class} {arguments : List Value}

/-- A class that is built on a sound one is sound. -/
theorem BuiltOn.sound (hu : u.BuiltOn (some t)) (ht : t.Sound) : u.Sound := by
  refine .of_parent hu.wellFormed ?_
  intro parent hparent
  rw [hu.parent_eq] at hparent
  exact Option.some.inj hparent ▸ ht

/-- The slots of a base come first. -/
theorem BuiltOn.slots_of_base (hu : u.BuiltOn (some t)) : t.slots <+: u.slots := by
  have hown := hu.laidOut.inherits
  rwa [inherited, hu.parent_eq] at hown

/-- A blank instance of a longer layout is one of the shorter layout with further values. -/
theorem blank_eq_extend (hslots : t.slots <+: u.slots) :
    Instance.blank u = (Instance.blank t).extend u (furtherValues t u) := by
  have hsplit : u.slots = t.slots ++ u.slots.drop t.slots.length :=
    (List.prefix_iff_eq_append.mp hslots).symm
  rw [Instance.blank, Instance.extend, Instance.blank, furtherValues, slotCount, ← List.map_append,
    ← hsplit]

/-- The further values of a longer chain are those of its parts. -/
theorem furtherValues_append (hbt : b.slots <+: t.slots) (htu : t.slots <+: u.slots) :
    furtherValues b t ++ furtherValues t u = furtherValues b u := by
  obtain ⟨middle, hmiddle⟩ := hbt
  obtain ⟨last, hlast⟩ := htu
  rw [furtherValues, furtherValues, furtherValues, slotCount, slotCount, ← hlast, ← hmiddle]
  simp [List.append_assoc]

/-! ### Construction -/

/-- To construct the one class and the other one with the same arguments comes to the same: two
instances, the longer with initial values behind, or two refusals in the name of the class, or one
and the same value that does not fit. -/
inductive Alike (b t : Class) (arguments : List Value) :
    Except Error Instance → Except Error Instance → Prop
  /-- Both succeed. -/
  | made (i : Instance) : Alike b t arguments (.ok i) (.ok (i.extend t (furtherValues b t)))
  /-- Neither class has a constructor for the arguments. -/
  | refused : Alike b t arguments (.error (noConstructor b.name arguments))
      (.error (noConstructor t.name arguments))
  /-- Some value does not fit. -/
  | mismatched {e : Error} (he : e.IsMismatch) : Alike b t arguments (.error e) (.error e)

/-- A refusal is no mismatch. -/
theorem noConstructor_not_isMismatch (name : String) :
    ¬ (noConstructor name arguments).IsMismatch := by
  rintro ⟨member, expected, actual, h⟩
  cases h

/-- What is constructed alike step by step is constructed alike. -/
theorem Alike.trans (hbt : b.slots <+: t.slots) (htu : t.slots <+: u.slots)
    {first second third : Except Error Instance} (h : Alike b t arguments first second)
    (h' : Alike t u arguments second third) : Alike b u arguments first third := by
  cases h with
  | made i =>
    cases h' with
    | made =>
      have hvalues := furtherValues_append hbt htu
      have hextend : (i.extend t (furtherValues b t)).extend u (furtherValues t u) =
          i.extend u (furtherValues b u) := by
        rw [← hvalues]
        simp [Instance.extend, List.append_assoc]
      rw [hextend]
      exact .made i
  | refused =>
    cases h' with
    | refused => exact .refused
    | mismatched he => exact absurd he (noConstructor_not_isMismatch t.name)
  | mismatched he =>
    cases h' with
    | refused => exact absurd he (noConstructor_not_isMismatch t.name)
    | mismatched => exact .mismatched he

/-- The result of an effect and that of the same effect on further values are alike, if the effect
fails only where a value does not fit. -/
theorem Alike.of_sound {α : Type} {effect : Effect α} (hslots : t.slots <+: u.slots)
    (hsound : effect.Sound (·.IsOf t))
    (hextends : effect.Extends t u (furtherValues t u)) :
    Alike t u arguments (effect.after (Instance.blank t)) (effect.after (Instance.blank u)) := by
  have hblank := Instance.isOf_blank t
  rw [blank_eq_extend hslots, hextends.after_eq hsound hblank hblank]
  cases hrun : effect.after (Instance.blank t) with
  | ok i => exact .made i
  | error e => exact .mismatched (hsound.after_eq_error hblank hrun)

/-- A constructor that only passes on leaves behind what the one of the base does. -/
theorem after_forwarding (hu : u.BuiltOn (some t)) {target : Nat} {k : Constructor}
    (hk : t.constructors[target]? = some k) (hlength : arguments.length = k.parameters.length)
    (i : Instance) :
    (runConstructor u.own u.ancestors
        ⟨k.parameters, Code.forwarding target k.parameters.length⟩ arguments).after i =
      (runConstructor t.own t.ancestors k arguments).after i := by
  unfold Effect.after
  rw [runConstructor, ← hlength, execute_forwarding hu.parent_eq hk]
  cases runConstructor t.own t.ancestors k arguments i with
  | ok result left => rfl
  | error e left => rfl

/-- A constructor of a built class and the one of the base with the same number construct alike. -/
theorem BuiltOn.construct_alike (hu : u.BuiltOn (some t)) (ht : t.Sound) (target : Nat) :
    Alike t u arguments (Instance.construct t target arguments)
      (Instance.construct u target arguments) := by
  unfold Instance.construct
  rw [hu.getElem?_constructors]
  cases hk : t.constructors[target]? with
  | none => exact .refused
  | some k =>
    have hsame : Constructor.accepts ⟨k.parameters, Code.forwarding target k.parameters.length⟩
        arguments = k.accepts arguments := rfl
    simp only [Option.map_some, hsame]
    by_cases haccepts : k.accepts arguments
    · have hlength := Constructor.length_of_accepts haccepts
      have hsound := ht.runConstructor_sound (Nat.le_refl _) (List.mem_of_getElem? hk) hlength
      rw [if_pos haccepts, if_pos haccepts, after_forwarding hu hk hlength]
      exact .of_sound hu.slots_of_base hsound
        (extends_execute hu.slots_of_base t.ancestors _ k.code)
    · rw [if_neg haccepts, if_neg haccepts]
      exact .refused

/-- The constructors of a built class have the parameters of those of its base. -/
theorem BuiltOn.parameters_eq (hu : u.BuiltOn (some t)) :
    u.constructors.map (·.parameters) = t.constructors.map (·.parameters) := by
  apply List.ext_getElem?
  intro target
  rw [List.getElem?_map, List.getElem?_map, hu.getElem?_constructors, Option.map_map]
  rfl

/-- The same constructor is chosen on a built class as on its base. -/
theorem BuiltOn.findIdx?_accepts (hu : u.BuiltOn (some t)) (arguments : List Value) :
    u.constructors.findIdx? (·.accepts arguments) =
      t.constructors.findIdx? (·.accepts arguments) := by
  apply Constructor.findIdx?_of_parameters hu.parameters_eq
  intro k other hsame
  rw [Constructor.accepts, Constructor.accepts, hsame]

/-- A built class is constructed like its base. -/
theorem BuiltOn.create_alike (hu : u.BuiltOn (some t)) (ht : t.Sound) (arguments : List Value) :
    Alike t u arguments (Instance.create t arguments) (Instance.create u arguments) := by
  have hsame : u.constructors.isEmpty = t.constructors.isEmpty := by
    rw [hu.constructors_eq]
    cases t.constructors <;> simp
  unfold Instance.create
  rw [hsame]
  by_cases hnone : t.constructors.isEmpty
  · rw [if_pos hnone, if_pos hnone]
    by_cases hempty : arguments.isEmpty
    · rw [if_pos hempty, if_pos hempty, runImplicit_of_parent hu.parent_eq,
        runImplicit_layers_of_isEmpty hnone]
      have hsound := ht.runImplicit_sound (Nat.le_refl _) (List.isEmpty_iff.mp hnone)
      exact .of_sound hu.slots_of_base hsound (extends_runImplicit hu.slots_of_base t.ancestors)
    · rw [if_neg hempty, if_neg hempty]
      exact .refused
  · rw [if_neg hnone, if_neg hnone, hu.findIdx?_accepts]
    cases t.constructors.findIdx? (·.accepts arguments) with
    | none => exact .refused
    | some target => exact hu.construct_alike ht target

/-- To construct a class twice with the same arguments comes to the same. -/
theorem Sound.create_alike (hb : b.Sound) (arguments : List Value) :
    Alike b b arguments (Instance.create b arguments) (Instance.create b arguments) := by
  cases hrun : Instance.create b arguments with
  | ok i =>
    have hcls := (Instance.Created.constructed arguments hrun).isOf.1
    have hself : i.extend b (furtherValues b b) = i := by
      obtain ⟨cls, values⟩ := i
      obtain rfl : cls = b := hcls
      rw [furtherValues, slotCount, List.drop_length, List.map_nil, Instance.extend,
        List.append_nil]
    have hmade : Alike b b arguments (.ok i) (.ok (i.extend b (furtherValues b b))) := .made i
    rwa [hself] at hmade
  | error e =>
    rcases Instance.create_eq_error hb hrun with rfl | hmismatch
    · exact .refused
    · exact .mismatched hmismatch

/-! ### Members -/

/-- A built class retains the members of its base that it does not declare anew. -/
theorem BuiltOn.retains (hu : u.BuiltOn (some t)) :
    u.Retains t (u.own.properties.map (·.name)) where
  slots := hu.slots_of_base
  labels := by
    rw [memberNames_of_parent hu.parent_eq]
    exact List.prefix_append _ _
  property := by
    intro name hname
    have hnone : u.own.property? name = none := by
      cases hp : u.own.property? name with
      | none => rfl
      | some p =>
        obtain ⟨hpname, hmem⟩ := Layer.name_of_property? hp
        exact absurd (List.mem_map.mpr ⟨p, hmem, hpname⟩) hname
    rw [property?_eq, hnone, hu.parent_eq]
    rfl
  field := by
    intro name hname
    have hnone : u.own.field? name = none := by
      rw [Layer.field?, hu.fields_eq]
      rfl
    rw [field?_eq, hnone, hu.parent_eq]
    rfl

/-- What is retained step by step is retained, unless it is hidden at one of the steps. -/
theorem Retains.trans {names more : List String} (h : t.Retains b names) (h' : u.Retains t more) :
    u.Retains b (names ++ more) where
  slots := h.slots.trans h'.slots
  labels := h.labels.trans h'.labels
  property := by
    intro name hname
    rw [List.mem_append, not_or] at hname
    rw [h'.property name hname.2, h.property name hname.1]
  field := by
    intro name hname
    rw [List.mem_append, not_or] at hname
    rw [h'.field name hname.2, h.field name hname.1]

namespace Chain

variable {names : List String}

/-- All classes of a chain are sound if the first one is. -/
theorem sound (h : Chain b names t) (hb : b.Sound) : t.Sound := by
  induction h with
  | refl => exact hb
  | build h hu ih => exact hu.sound ih

/-- The last class of a chain retains the members of the first one that the chain does not declare
anew. -/
theorem retains (h : Chain b names t) : t.Retains b names := by
  induction h with
  | refl => exact .refl b []
  | build h hu ih => exact ih.trans hu.retains

/-- The last class of a chain is constructed like the first one. -/
theorem create_alike (h : Chain b names t) (hb : b.Sound) (arguments : List Value) :
    Alike b t arguments (Instance.create b arguments) (Instance.create t arguments) := by
  induction h with
  | refl => exact hb.create_alike arguments
  | build h hu ih =>
    exact ih.trans h.retains.slots hu.slots_of_base (hu.create_alike (h.sound hb) arguments)

end Chain

/-- The last class of a chain stands in for the first one, if that can come about. It takes the same
arguments. If construction fails it fails for both with one error, which names the class only where
there is no constructor. If it succeeds, the values of the longer instance are those of the shorter
one and initial values behind them; and whatever calls on properties of the chain are made on either
side, the same calls on other members get the same answers, apart from names of types. -/
theorem Chain.behaves_as_base {names : List String} (hb : b.Made) (h : Chain b names t)
    (arguments : List Value) :
    (∃ e e', Instance.create b arguments = .error e ∧ Instance.create t arguments = .error e' ∧
        (e' = e ∨
          e = noConstructor b.name arguments ∧ e' = noConstructor t.name arguments)) ∨
      ∃ i j, Instance.create b arguments = .ok i ∧ Instance.create t arguments = .ok j ∧
        i.slots.length = b.slotCount ∧
        j.slots = i.slots ++ (t.slots.drop b.slotCount).map (·.ty.initial) ∧
        ∀ left right : List Instance.Call,
          right.filter (·.member ∉ names) = left.filter (·.member ∉ names) →
            Instance.shown names (j.transcript right) =
              Instance.shown names (i.transcript left) := by
  have hbase := hb.sound
  have hderived := h.sound hbase
  have halike := h.create_alike hbase arguments
  cases hrun : Instance.create b arguments with
  | error e =>
    left
    rw [hrun] at halike
    generalize Instance.create t arguments = result at halike
    cases halike with
    | refused => exact ⟨_, _, rfl, rfl, .inr ⟨rfl, rfl⟩⟩
    | mismatched he => exact ⟨e, e, rfl, rfl, .inl rfl⟩
  | ok i =>
    right
    have hi : i.IsOf b := (Instance.Created.constructed arguments hrun).isOf
    rw [hrun] at halike
    cases hlonger : Instance.create t arguments with
    | error e =>
      rw [hlonger] at halike
      cases halike
    | ok j =>
      have hj : j.IsOf t := (Instance.Created.constructed arguments hlonger).isOf
      rw [hlonger] at halike
      cases halike with
      | made =>
        refine ⟨i, _, rfl, rfl, hi.2, rfl, ?_⟩
        intro left right hcalls
        have hagrees := Instance.Agrees.of_extend hbase.formed hi hj names
        exact hagrees.shown_eq hbase.formed hderived.formed h.retains hcalls

/-- A builder on top of the car that hides the label of the vehicle behind a number. -/
def taxiBuilder : Builder where
  draft :=
    { registry := 0
      slotPrefix := "_"
      name := "Taxi"
      container := "DynamicAssembly"
      base := some (.ofClass car)
      constructors := (Base.ofClass car).forwardings
      properties := [⟨"Label", .int, "_label", []⟩]
      attributes := []
      isFrozen := false }
  built := none

/-- The class that this builder builds. -/
def taxi : Class := taxiBuilder.draft.compile ⟨0, 0⟩

theorem builtOn_taxi : taxi.BuiltOn (some car) := by
  have hstart : Builder.start (.empty 0 {}) "Taxi" none (some car) =
      .ok ⟨{ taxiBuilder.draft with properties := [] }, none⟩ := rfl
  have hdefined := (Builder.Reachable.start hstart).call (.empty 0 {})
    (.define "Label" .int : BuilderCall Ty Unit)
  exact .builder hdefined (.empty 0 {}) rfl

/-- The taxi takes the arguments of the vehicle. Its own label and its seats are written in between,
the label that it hides is written on the vehicle only, and the wheels of both read the same. -/
theorem taxi_behaves_as_vehicle :
    Instance.create vehicle [.int 4, .str "Beetle"] =
        .ok ⟨vehicle, [.int 4, .str "Beetle"]⟩ ∧
      Instance.create taxi [.int 4, .str "Beetle"] =
        .ok ⟨taxi, [.int 4, .str "Beetle", .int 0, .int 0]⟩ ∧
      Instance.shown ["Seats", "Label"]
          ((Instance.mk taxi [.int 4, .str "Beetle", .int 0, .int 0]).transcript
            [.set "Label" (.int 7), .setMember "wheels" (.int 6), .set "Seats" (.int 5),
              .get "wheels", .field "wheels"]) =
        Instance.shown ["Seats", "Label"]
          ((Instance.mk vehicle [.int 4, .str "Beetle"]).transcript
            [.setMember "wheels" (.int 6), .set "Label" (.str "Bug"), .get "wheels",
              .field "wheels"]) := by
  have hchain : Chain vehicle ["Seats", "Label"] taxi :=
    .build (.build .refl builtOn_car) builtOn_taxi
  have hvehicle : Instance.create vehicle [.int 4, .str "Beetle"] =
      .ok ⟨vehicle, [.int 4, .str "Beetle"]⟩ := rfl
  have htaxi : Instance.create taxi [.int 4, .str "Beetle"] =
      .ok ⟨taxi, [.int 4, .str "Beetle", .int 0, .int 0]⟩ := rfl
  rcases hchain.behaves_as_base made_vehicle [.int 4, .str "Beetle"] with
    ⟨e, e', he, -⟩ | ⟨i, j, hi, hj, -, -, hsessions⟩
  · rw [hvehicle] at he
    cases he
  · obtain rfl := Except.ok.inj (hvehicle.symm.trans hi)
    obtain rfl := Except.ok.inj (htaxi.symm.trans hj)
    exact ⟨hvehicle, htaxi, hsessions _ _ rfl⟩

end Class

end ClassSynthesis
