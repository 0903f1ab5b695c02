import ClassSynthesis.Proofs.Builder.Lifecycle

/-!
# Handles of properties

A handle is no more than the place of a property, and a property whose configuration fails is
removed again. Still the handle of a property that stays stands for it for good: a draft only ever
grows at its ends. Properties come behind those that are there, attributes behind those of their
target, and only the property that came last is ever removed.
-/

namespace ClassSynthesis

/-- The same property, with further attributes at the end. -/
structure DraftProperty.GrowsTo (p later : DraftProperty) : Prop where
  /-- The name is the same. -/
  name : later.name = p.name
  /-- The type is the same. -/
  ty : later.ty = p.ty
  /-- The slot has the same name. -/
  slotName : later.slotName = p.slotName
  /-- The attributes are still there, in order and before all others. -/
  attributes : p.attributes <+: later.attributes

namespace DraftProperty.GrowsTo

theorem refl (p : DraftProperty) : p.GrowsTo p := ⟨rfl, rfl, rfl, List.prefix_rfl⟩

theorem trans {p q later : DraftProperty} (h : p.GrowsTo q) (hlater : q.GrowsTo later) :
    p.GrowsTo later where
  name := hlater.name.trans h.name
  ty := hlater.ty.trans h.ty
  slotName := hlater.slotName.trans h.slotName
  attributes := h.attributes.trans hlater.attributes

/-- Attributes at the end are further ones. -/
theorem addAttributes (p : DraftProperty) (made : List Attribute) :
    p.GrowsTo { p with attributes := p.attributes ++ made } :=
  ⟨rfl, rfl, rfl, List.prefix_append p.attributes made⟩

end DraftProperty.GrowsTo

namespace Draft

/-- The same draft, with further properties and attributes at the ends. -/
structure Grows (d later : Draft) : Prop where
  /-- It was opened with the same things. -/
  opening : later.opening = d.opening
  /-- The attributes of the type are still there, in order and before all others. -/
  attributes : d.attributes <+: later.attributes
  /-- The properties are still there, under their handles. -/
  properties : ∀ handle p, d.property? handle = some p →
    ∃ q, later.property? handle = some q ∧ p.GrowsTo q

namespace Grows

theorem refl (d : Draft) : d.Grows d :=
  ⟨rfl, List.prefix_rfl, fun _ p hp => ⟨p, hp, .refl p⟩⟩

theorem trans {d mid later : Draft} (h : d.Grows mid) (hlater : mid.Grows later) :
    d.Grows later where
  opening := hlater.opening.trans h.opening
  attributes := h.attributes.trans hlater.attributes
  properties := by
    intro handle p hp
    obtain ⟨q, hq, hgrown⟩ := h.properties handle p hp
    obtain ⟨q', hq', hgrown'⟩ := hlater.properties handle q hq
    exact ⟨q', hq', hgrown.trans hgrown'⟩

/-- A definition adds a property behind the others. -/
theorem addProperty (d : Draft) (name : String) (ty : Ty) : d.Grows (d.addProperty name ty) where
  opening := rfl
  attributes := List.prefix_rfl
  properties := fun _ p hp => ⟨p, getElem?_longer (List.prefix_append _ _) hp, .refl p⟩

/-- Attributes for one property go behind those that it has. -/
theorem addAttributes (d : Draft) (handle : PropertyHandle) (made : List Attribute) :
    d.Grows (d.addAttributes handle made) where
  opening := rfl
  attributes := List.prefix_rfl
  properties := by
    intro other p hp
    have hplace : d.properties[other.index]? = some p := hp
    have hlater : (d.addAttributes handle made).property? other =
        some (if handle.index = other.index then { p with attributes := p.attributes ++ made }
          else p) := by
      rw [property?, Draft.addAttributes, List.getElem?_modify, hplace]
      split <;> rfl
    refine ⟨_, hlater, ?_⟩
    split
    · exact .addAttributes p made
    · exact .refl p

/-- What a call that succeeds does to a draft makes it grow. -/
theorem carryOut {ρ : Type} (d : Draft) (call : BuilderCall Ty ρ) : d.Grows (d.carryOut call) := by
  cases call with
  | define name ty => exact addProperty d name ty
  | defineWith name ty configuration =>
    exact (addProperty d name ty).trans (addAttributes _ d.nextHandle _)
  | configure handle configuration =>
    rw [Draft.carryOut]
    cases d.property? handle with
    | some p => exact addAttributes d handle _
    | none => exact refl d
  | addAttribute a =>
    exact ⟨rfl, List.prefix_append _ _, fun _ p hp => ⟨p, hp, .refl p⟩⟩
  | build => exact ⟨rfl, List.prefix_rfl, fun _ p hp => ⟨p, hp, .refl p⟩⟩

/-- The handle of a name is the same in a draft that has grown. -/
theorem handle? {d later : Draft} (h : d.Grows later) {name : String} {handle : PropertyHandle}
    (hhandle : d.handle? name = some handle) : later.handle? name = some handle := by
  obtain ⟨index, hindex, rfl⟩ := Option.map_eq_some_iff.mp hhandle
  obtain ⟨hlt, hname, hbefore⟩ := List.findIdx?_eq_some_iff_getElem.mp hindex
  -- Every property up to this one is still there under its name.
  have hkept (place : Nat) (hplace : place < d.properties.length) :
      ∃ hlater : place < later.properties.length,
        later.properties[place].name = d.properties[place].name := by
    obtain ⟨q, hq, hgrown⟩ := h.properties ⟨place⟩ _ (List.getElem?_eq_getElem hplace)
    obtain ⟨hlater, rfl⟩ := List.getElem?_eq_some_iff.mp hq
    exact ⟨hlater, hgrown.name⟩
  have hfound : later.properties.findIdx? (·.name == name) = some index := by
    rw [List.findIdx?_eq_some_iff_getElem]
    obtain ⟨hlater, hsame⟩ := hkept index hlt
    refine ⟨hlater, by rwa [hsame], ?_⟩
    intro place hplace
    obtain ⟨hthere, hunchanged⟩ := hkept place (Nat.lt_trans hplace hlt)
    rw [hunchanged]
    exact hbefore place hplace
  rw [Draft.handle?, hfound]
  rfl

end Grows

/-- The property that a name has a handle for has that name. -/
theorem exists_of_handle? {d : Draft} {name : String} {handle : PropertyHandle}
    (h : d.handle? name = some handle) : ∃ p, d.property? handle = some p ∧ p.name = name := by
  obtain ⟨index, hindex, rfl⟩ := Option.map_eq_some_iff.mp h
  obtain ⟨hlt, hname, -⟩ := List.findIdx?_eq_some_iff_getElem.mp hindex
  exact ⟨_, List.getElem?_eq_getElem hlt, by simpa using hname⟩

/-- The name of a property that was just defined has the handle of that property. -/
theorem handle?_addProperty {d : Draft} {name : String} (h : d.checkDefine name = .ok ())
    (ty : Ty) : (d.addProperty name ty).handle? name = some d.nextHandle := by
  have hothers := name_ne_of_checkDefine h
  have hnone : d.properties.findIdx? (·.name == name) = none := by simpa using hothers
  rw [handle?, addProperty, List.findIdx?_append, hnone]
  simp [nextHandle]

end Draft

/-- The class declares this property of a draft, under its handle. -/
def Class.Declares (c : Class) (handle : PropertyHandle) (p : DraftProperty) : Prop :=
  ∃ declared, c.own.properties[handle.index]? = some declared ∧ declared.name = p.name ∧
    declared.ty = p.ty ∧ declared.attributes = p.attributes

/-- A compiled draft declares its properties. -/
theorem Draft.declares_compile {d : Draft} {handle : PropertyHandle} {p : DraftProperty}
    (h : d.property? handle = some p) (key : ClassKey) : (d.compile key).Declares handle p := by
  have hplace : d.properties[handle.index]? = some p := h
  refine ⟨p.compile 0 d.baseSlots.length handle.index, ?_, rfl, rfl, rfl⟩
  rw [d.properties_compile, List.getElem?_mapIdx, hplace]
  rfl

namespace Builder

variable {ρ : Type}

/-- The draft of a builder grows with every call, if only trivially. -/
theorem grows_next (b : Builder) (r : Registry) (call : BuilderCall Ty ρ) :
    b.draft.Grows (next (b, r) call).1.draft := by
  rcases b.next_cases r call with ⟨e, -, hnext⟩ | ⟨-, -, -, hnext⟩ | ⟨c, -, -, -, -, hnext⟩
  · rw [hnext]
    exact .refl b.draft
  · rw [hnext]
    exact .carryOut b.draft call
  · rw [hnext]
    exact .carryOut b.draft call

theorem grows_after (b : Builder) (calls : List (Registry × BuilderCall Ty ρ)) :
    b.draft.Grows (b.after calls).draft := by
  induction calls generalizing b with
  | nil => exact .refl b.draft
  | cons first rest ih =>
    obtain ⟨r, call⟩ := first
    exact (b.grows_next r call).trans (ih (next (b, r) call).1)

/-- How the user of a builder comes by the handle of a property, and the builder as it is then. -/
inductive Obtained : Builder → PropertyHandle → String → Prop
  /-- The definition of the property has answered with it. -/
  | defined {ρ : Type} {b : Builder} {r : Registry} {name : String} {ty : Ty}
      {handle : PropertyHandle}
      (h : reply (b, r) (.define name ty : BuilderCall Ty ρ) = .defined (.ok handle)) :
      Obtained (next (b, r) (.define name ty : BuilderCall Ty ρ)).1 handle name
  /-- The configuration of the property was given it, and has succeeded. -/
  | configured {ρ : Type} {b left : Builder} {r : Registry} {name : String} {ty : Ty}
      {configuration : PropertyScope → Configuration ρ} {handle : PropertyHandle}
      (hdefine : define name ty b = .ok handle left)
      (h : (defineWith name ty configuration b).1.outcome = .ok ()) :
      Obtained (next (b, r) (.defineWith name ty configuration)).1 handle name
  /-- It was asked for by the name of the property. -/
  | found {b : Builder} {name : String} {handle : PropertyHandle}
      (h : b.draft.handle? name = some handle) : Obtained b handle name

/-- However a handle was obtained, it is the one of its name. -/
theorem Obtained.handle?_eq {b : Builder} {handle : PropertyHandle} {name : String}
    (h : Obtained b handle name) : b.draft.handle? name = some handle := by
  cases h with
  | @defined ρ b r name ty handle h =>
    cases hrun : define name ty b with
    | error e left => simp [reply, hrun, outcomeOf] at h
    | ok answered left =>
      obtain rfl : answered = handle := by simpa [reply, hrun, outcomeOf] using h
      obtain ⟨hnew, rfl, rfl⟩ := define_eq_ok hrun
      rw [next, hrun]
      exact Draft.handle?_addProperty hnew ty
  | @configured ρ b left r name ty configuration handle hdefine h =>
    obtain ⟨hnew, rfl, rfl⟩ := define_eq_ok hdefine
    rw [next, defineWith_eq_ok hdefine h, Configuration.run_eq]
    exact (Draft.Grows.addAttributes _ _ _).handle? (Draft.handle?_addProperty hnew ty)
  | found h => exact h

/-- The handle stands for this property, with further attributes at the end if need be. The handle
is the one of the name, and a class that was built declares the property. -/
def Keeps (b : Builder) (handle : PropertyHandle) (p : DraftProperty) : Prop :=
  ∃ q, b.draft.property? handle = some q ∧ p.GrowsTo q ∧ b.draft.handle? p.name = some handle ∧
    ∀ c, b.built = some c → c.Declares handle q

/-- What a handle was obtained for, it stands for ever after. -/
theorem Obtained.keeps_after {b : Builder} {handle : PropertyHandle} {name : String}
    (h : Obtained b handle name) (hsettled : b.Settled) :
    ∃ p, b.draft.property? handle = some p ∧ p.name = name ∧
      ∀ more : List (Registry × BuilderCall Ty ρ), (b.after more).Keeps handle p := by
  have hhandle := h.handle?_eq
  obtain ⟨p, hp, rfl⟩ := Draft.exists_of_handle? hhandle
  refine ⟨p, hp, rfl, ?_⟩
  intro more
  have hgrows := b.grows_after more
  obtain ⟨q, hq, hgrown⟩ := hgrows.properties handle p hp
  refine ⟨q, hq, hgrown, hgrows.handle? hhandle, ?_⟩
  intro c hc
  obtain ⟨key, rfl⟩ := hsettled.after more c hc
  exact Draft.declares_compile hq key

/-- A call that succeeds has its one effect on the draft. Beyond that only the call to build the
class does anything: it keeps the class and registers it. -/
structure Targeted (ρ : Type) (b : Builder) : Prop where
  /-- Any other call changes the draft and nothing else. -/
  change : ∀ (r : Registry) (call : BuilderCall Ty ρ), call.isBuild = false →
    (reply (b, r) call).error? = none →
      next (b, r) call = ({ b with draft := b.draft.carryOut call }, r)
  /-- To build the class freezes the draft. -/
  build : ∀ (r : Registry) (c : Class), outcomeOf (build (b, r)) = .ok c →
    next (b, r) (.build : BuilderCall Ty ρ) =
      (⟨b.draft.carryOut (.build : BuilderCall Ty ρ), some c⟩, r.allocate.2.register c)

theorem targeted (ρ : Type) (b : Builder) : Targeted ρ b where
  change := fun _ _ hcall h => next_of_success hcall h
  build := fun _ _ h => next_of_built h

end Builder

namespace SourceBuilder

variable {ρ : Type}

/-- How the user of a builder with a source comes by the handle of a property, and the builder as it
is then. -/
inductive Obtained : SourceBuilder → PropertyHandle → String → Prop
  /-- The definition of the property has answered with it. -/
  | defined {ρ : Type} {b : SourceBuilder} {r : Registry} {property : String}
      {handle : PropertyHandle}
      (h : reply (b, r) (.define property () : BuilderCall Unit ρ) = .defined (.ok handle)) :
      Obtained (next (b, r) (.define property () : BuilderCall Unit ρ)).1 handle property
  /-- The configuration of the property was given it, and has succeeded. -/
  | configured {ρ : Type} {b left : SourceBuilder} {r : Registry} {property : String}
      {configuration : PropertyScope → Configuration ρ} {handle : PropertyHandle}
      (hdefine : define property b = .ok handle left)
      (h : (defineWith property configuration b).1.outcome = .ok ()) :
      Obtained (next (b, r) (.defineWith property () configuration)).1 handle property
  /-- It was asked for by the name of the property. -/
  | found {b : SourceBuilder} {name : String} {handle : PropertyHandle}
      (h : b.builder.draft.handle? name = some handle) : Obtained b handle name

/-- A handle that is obtained from a builder with a source is obtained from the builder behind. -/
theorem Obtained.behind {b : SourceBuilder} {handle : PropertyHandle} {name : String}
    (h : Obtained b handle name) : Builder.Obtained b.builder handle name := by
  cases h with
  | @defined ρ b r _ _ h =>
    cases hty : b.sourceType name with
    | error e => simp [reply, define, hty, outcomeOf] at h
    | ok ty =>
      obtain ⟨hreply, hnext⟩ := eq_of_chosen (chosen_define hty) r
      rw [hreply] at h
      rw [hnext]
      exact .defined h
  | @configured ρ b left r _ configuration _ hdefine h =>
    obtain ⟨ty, behind, hty, hrun⟩ := define_eq_ok hdefine
    simp only [defineWith, hty] at h
    rw [(eq_of_chosen (chosen_defineWith hty configuration) r).2]
    exact .configured (r := r) hrun h
  | found h => exact .found h

/-- A call that succeeds is passed on and has its one effect on the draft behind. -/
structure Targeted (ρ : Type) (b : SourceBuilder) : Prop where
  /-- Any other call than to build the class changes the draft and nothing else. -/
  change : ∀ (r : Registry) (call : BuilderCall Unit ρ), call.isBuild = false →
    (reply (b, r) call).error? = none → ∃ behind, b.chosen call = .ok behind ∧
      next (b, r) call =
        ({ b with builder := { b.builder with draft := b.builder.draft.carryOut behind } }, r)
  /-- To build the class freezes the draft. -/
  build : ∀ (r : Registry) (c : Class), outcomeOf (build (b, r)) = .ok c →
    next (b, r) (.build : BuilderCall Unit ρ) =
      ({ b with
          builder := ⟨b.builder.draft.carryOut (.build : BuilderCall Ty ρ), some c⟩ },
        r.allocate.2.register c)

theorem targeted (ρ : Type) (b : SourceBuilder) : Targeted ρ b where
  change := by
    intro r call hcall h
    obtain ⟨behind, hchosen⟩ := exists_chosen h
    obtain ⟨hreply, hnext⟩ := eq_of_chosen hchosen r
    rw [hreply] at h
    have hbehind := Builder.next_of_success ((isBuild_of_chosen hchosen).trans hcall) h
    exact ⟨behind, hchosen, by rw [hnext, hbehind]⟩
  build := by
    intro r c h
    have hchosen : b.chosen (.build : BuilderCall Unit ρ) = .ok .build := rfl
    rw [(eq_of_chosen hchosen r).2, Builder.next_of_built (build_behind h)]

end SourceBuilder

/-- A handle stands for one property for good. However it was obtained in the course of a run, in
every later state of the builder it stands for a property of the same name, type and slot, with the
same attributes and possibly further ones behind them; it is the handle of that name; and a class
that was built declares the property in its place. Drafts only grow at their ends, and a call that
succeeds changes nothing but its target. -/
theorem handles_stay (ρ : Type) :
    (∀ (r₀ : Registry) (name : String) (container : Option String) (base : Option Class)
      (b₀ : Builder), Builder.start r₀ name container base = .ok b₀ →
      ∀ calls : List (Registry × BuilderCall Ty ρ),
        let b := b₀.after calls
        (∀ handle property, Builder.Obtained b handle property →
          ∃ p, b.draft.property? handle = some p ∧ p.name = property ∧
            ∀ more : List (Registry × BuilderCall Ty ρ), (b.after more).Keeps handle p) ∧
        (∀ more : List (Registry × BuilderCall Ty ρ), b.draft.Grows (b.after more).draft) ∧
        Builder.Targeted ρ b) ∧
    (∀ (r₀ : Registry) (source : Class) (name container : Option String) (inherit : Bool)
      (b₀ : SourceBuilder), SourceBuilder.start r₀ source name container inherit = .ok b₀ →
      ∀ calls : List (Registry × BuilderCall Unit ρ),
        let b := b₀.after calls
        (∀ handle property, SourceBuilder.Obtained b handle property →
          ∃ p, b.builder.draft.property? handle = some p ∧ p.name = property ∧
            ∀ more : List (Registry × BuilderCall Unit ρ),
              (b.after more).builder.Keeps handle p) ∧
        (∀ more : List (Registry × BuilderCall Unit ρ),
          b.builder.draft.Grows (b.after more).builder.draft) ∧
        SourceBuilder.Targeted ρ b) ∧
    ∀ (target : Target) (a : Application) (d left : Draft),
      Draft.attach target a d = .ok () left →
        ∃ made, a.resolve = .ok made ∧ left = d.addAttribute target made := by
  refine ⟨?_, ?_, ?_⟩
  · intro r₀ name container base b₀ hstart calls b
    have hsettled : b.Settled := (Builder.settled_of_start hstart).after calls
    exact ⟨fun handle property h => h.keeps_after hsettled, b.grows_after, b.targeted ρ⟩
  · intro r₀ source name container inherit b₀ hstart calls b
    have hbehind : b.builder = b₀.builder.after (b₀.passedOn calls) := b₀.builder_after calls
    have hsettled : b.builder.Settled := by
      rw [hbehind]
      exact (Builder.settled_of_start (SourceBuilder.builder_of_start hstart).2).after _
    refine ⟨?_, ?_, b.targeted ρ⟩
    · intro handle property h
      obtain ⟨p, hp, hname, hkeeps⟩ := h.behind.keeps_after (ρ := ρ) hsettled
      refine ⟨p, hp, hname, ?_⟩
      intro more
      rw [b.builder_after more]
      exact hkeeps (b.passedOn more)
    · intro more
      rw [b.builder_after more]
      exact b.builder.grows_after (b.passedOn more)
  · intro target a d left h
    obtain ⟨made, -, hmade, hleft⟩ := Draft.attach_eq_ok h
    exact ⟨made, hmade, hleft⟩

/-- The car with its seats, which are defined and marked first. -/
def Builder.seatedCar : Builder := newCar.after (carCalls.take 1)

/-- What is done with the car from then on until it is built. -/
def Builder.furtherCalls : List (Registry × BuilderCall Ty Unit) :=
  carCalls.drop 1 ++ [(.empty 0 {}, .build)]

/-- The handle of the seats keeps standing for them while a door comes and goes and the seats are
marked once more, and the car declares them in its first place when it is built. -/
theorem handles_stay_seats :
    Builder.start (.empty 0 {}) "Car" none (some Class.vehicle) = .ok Builder.newCar ∧
      Builder.Obtained Builder.seatedCar ⟨0⟩ "Seats" ∧
      Builder.seatedCar.draft.property? ⟨0⟩ =
        some ⟨"Seats", .int, "_seats", [⟨marker, 0, [], []⟩]⟩ ∧
      (Builder.seatedCar.after Builder.furtherCalls).Keeps ⟨0⟩
        ⟨"Seats", .int, "_seats", [⟨marker, 0, [], []⟩]⟩ ∧
      (Builder.seatedCar.after Builder.furtherCalls).draft.property? ⟨0⟩ =
        some ⟨"Seats", .int, "_seats", [⟨marker, 0, [], []⟩, ⟨marker, 0, [], []⟩]⟩ ∧
      (Builder.seatedCar.after Builder.furtherCalls).isBuilt := by
  have hstart : Builder.start (.empty 0 {}) "Car" none (some Class.vehicle) =
      .ok Builder.newCar := rfl
  have hobtained : Builder.Obtained Builder.seatedCar ⟨0⟩ "Seats" :=
    @Builder.Obtained.configured Unit Builder.newCar _ (.empty 0 {}) "Seats" .int
      (fun _ => .ofList [⟨marker, [], none⟩]) ⟨0⟩ rfl rfl
  have hseats : Builder.seatedCar.draft.property? ⟨0⟩ =
      some ⟨"Seats", .int, "_seats", [⟨marker, 0, [], []⟩]⟩ := rfl
  obtain ⟨p, hp, -, hkeeps⟩ :=
    ((handles_stay Unit).1 _ _ _ _ _ hstart (Builder.carCalls.take 1)).1 _ _ hobtained
  have hsame : p = ⟨"Seats", .int, "_seats", [⟨marker, 0, [], []⟩]⟩ :=
    Option.some.inj (hp.symm.trans hseats)
  exact ⟨hstart, hobtained, hseats, hsame ▸ hkeeps Builder.furtherCalls, rfl, rfl⟩

end ClassSynthesis
