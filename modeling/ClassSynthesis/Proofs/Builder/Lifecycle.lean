import ClassSynthesis.Proofs.Builder.Compiled
import ClassSynthesis.Proofs.Builder.Effects
import ClassSynthesis.Proofs.Builder.Runs
import ClassSynthesis.Proofs.Draft.Sealing

/-!
# The life of a builder

A builder is open until its class is built, and building never fails on an open one. From then on it
refuses every call, and a refused call changes nothing. Builder and draft each keep a mark of this,
and the two marks always agree.
-/

namespace ClassSynthesis

variable {ρ : Type}

namespace Draft

/-- Only to build the class freezes a draft. -/
theorem isFrozen_carryOut (d : Draft) (call : BuilderCall Ty ρ) :
    (d.carryOut call).isFrozen = (d.isFrozen || call.isBuild) := by
  cases call with
  | build => exact (Bool.or_true _).symm
  | configure handle configuration =>
    rw [carryOut]
    cases d.property? handle <;> exact (Bool.or_false _).symm
  | define name ty => exact (Bool.or_false _).symm
  | defineWith name ty configuration => exact (Bool.or_false _).symm
  | addAttribute a => exact (Bool.or_false _).symm

end Draft

namespace Builder

/-- What a builder answers once its class has been built. -/
def refusal (b : Builder) : BuilderCall Ty ρ → BuilderReply ρ
  | .define _ _ => .defined (.error (.frozen b.draft.name))
  | .defineWith _ _ _ => .definedWith ⟨.error (.frozen b.draft.name), none⟩
  | .configure _ _ => .configured ⟨.error (.frozen b.draft.name), none⟩
  | .addAttribute _ => .attached (.error (.frozen b.draft.name))
  | .build => .built (.error (.alreadyBuilt b.draft.name))

theorem reply_of_isBuilt {b : Builder} (h : b.isBuilt) (r : Registry) (call : BuilderCall Ty ρ) :
    reply (b, r) call = b.refusal call := by
  cases call <;>
    simp [reply, refusal, define, defineWith, configure, addAttribute, build, onDraft,
      checkUnbuilt, h, outcomeOf]

/-- Every answer to a call on a builder that has built its class is an error. -/
theorem error?_refusal (b : Builder) (call : BuilderCall Ty ρ) :
    ∃ e, (b.refusal call).error? = some e := by
  cases call <;> exact ⟨_, rfl⟩

theorem next_of_isBuilt {b : Builder} (h : b.isBuilt) (r : Registry) (call : BuilderCall Ty ρ) :
    next (b, r) call = (b, r) := by
  obtain ⟨e, he⟩ := b.error?_refusal call
  rw [← reply_of_isBuilt h r] at he
  exact next_eq_self he

theorem isBuilt_of_built {b : Builder} {c : Class} (h : b.built = some c) : b.isBuilt := by
  rw [isBuilt, h]
  rfl

/-- What a call comes to: it fails and changes nothing, or it has its effect on the draft of an open
builder, or it builds the class. -/
theorem next_cases (b : Builder) (r : Registry) (call : BuilderCall Ty ρ) :
    (∃ e, (reply (b, r) call).error? = some e ∧ next (b, r) call = (b, r)) ∨
    (call.isBuild = false ∧ (reply (b, r) call).error? = none ∧ b.built = none ∧
      next (b, r) call = ({ b with draft := b.draft.carryOut call }, r)) ∨
    (∃ c, call.isBuild = true ∧ outcomeOf (build (b, r)) = .ok c ∧
      reply (b, r) call = .built (.ok c) ∧ b.built = none ∧
      next (b, r) call = (⟨b.draft.carryOut call, some c⟩, r.allocate.2.register c)) := by
  cases herror : (reply (b, r) call).error? with
  | some e => exact .inl ⟨e, rfl, next_eq_self herror⟩
  | none =>
    have hopen : b.built = none := by
      cases hbuilt : b.built with
      | none => rfl
      | some c =>
        obtain ⟨e, he⟩ := b.error?_refusal call
        rw [reply_of_isBuilt (isBuilt_of_built hbuilt), he] at herror
        cases herror
    right
    cases hcall : call.isBuild with
    | false => exact .inl ⟨rfl, rfl, hopen, next_of_success hcall herror⟩
    | true =>
      cases call with
      | build =>
        cases hbuild : outcomeOf (build (b, r)) with
        | error e => simp [reply, hbuild, BuilderReply.error?] at herror
        | ok c =>
          have hreply : reply (b, r) (.build : BuilderCall Ty ρ) = .built (.ok c) := by
            rw [reply, hbuild]
          exact .inr ⟨c, rfl, rfl, hreply, hopen, next_of_built hbuild⟩
      | _ => cases hcall

/-- A call leaves the marks of builder and draft alone, unless it builds the class: then it sets
both. -/
theorem marks_next {b : Builder} (h : b.isBuilt = b.draft.isFrozen) (r : Registry)
    (call : BuilderCall Ty ρ) :
    (next (b, r) call).1.isBuilt = (b.isBuilt || call.isBuild) ∧
      (next (b, r) call).1.draft.isFrozen = (b.isBuilt || call.isBuild) := by
  rcases b.next_cases r call with
    ⟨e, herror, hnext⟩ | ⟨hcall, -, -, hnext⟩ | ⟨c, hcall, -, -, -, hnext⟩
  · -- To build the class fails only if it has been built.
    have hasked : (b.isBuilt || call.isBuild) = b.isBuilt := by
      cases hbuilt : b.isBuilt with
      | true => rfl
      | false =>
        cases call with
        | build =>
          have hbuild := build_eq hbuilt (h ▸ hbuilt) r
          simp [reply, hbuild, outcomeOf, BuilderReply.error?] at herror
        | _ => rfl
    rw [hnext, hasked]
    exact ⟨rfl, h.symm⟩
  · rw [hnext, Draft.isFrozen_carryOut, hcall, Bool.or_false, Bool.or_false]
    exact ⟨rfl, h.symm⟩
  · rw [hnext, Draft.isFrozen_carryOut, hcall, Bool.or_true, Bool.or_true]
    exact ⟨rfl, rfl⟩

/-- Both marks say whether the class was to be built before. -/
theorem marks_after {b : Builder} (h : b.isBuilt = b.draft.isFrozen)
    (calls : List (Registry × BuilderCall Ty ρ)) :
    (b.after calls).isBuilt = (b.isBuilt || calls.any (·.2.isBuild)) ∧
      (b.after calls).draft.isFrozen = (b.isBuilt || calls.any (·.2.isBuild)) := by
  induction calls generalizing b with
  | nil =>
    rw [List.any_nil, Bool.or_false]
    exact ⟨rfl, h.symm⟩
  | cons first rest ih =>
    obtain ⟨r, call⟩ := first
    obtain ⟨hbuilt, hfrozen⟩ := marks_next h r call
    have hrest := ih (hbuilt.trans hfrozen.symm)
    rwa [hbuilt, Bool.or_assoc] at hrest

/-- A builder that was just opened has built nothing. -/
theorem built_of_start {r : Registry} {name : String} {container : Option String}
    {base : Option Class} {b : Builder} (h : start r name container base = .ok b) :
    b.built = none := by
  cases hdraft : Draft.start r name container base with
  | error e => simp [start, hdraft, Except.map] at h
  | ok d =>
    obtain rfl : ⟨d, none⟩ = b := by simpa [start, hdraft, Except.map] using h
    rfl

/-- Neither mark is set at first. -/
theorem marks_of_start {r : Registry} {name : String} {container : Option String}
    {base : Option Class} {b : Builder} (h : start r name container base = .ok b) :
    b.isBuilt = false ∧ b.draft.isFrozen = false := by
  have hopened := Draft.opening_of_start (draft_of_start h)
  constructor
  · rw [isBuilt, built_of_start h]
    rfl
  · rw [← hopened]
    rfl

/-- No run of calls changes a builder that has built its class. -/
theorem after_of_isBuilt {b : Builder} (h : b.isBuilt) (calls : List (Registry × BuilderCall Ty ρ)) :
    b.after calls = b := by
  induction calls with
  | nil => rfl
  | cons first rest ih =>
    obtain ⟨r, call⟩ := first
    have hfirst : b.after ((r, call) :: rest) = (next (b, r) call).1.after rest := rfl
    rw [hfirst, next_of_isBuilt h, ih]

/-- The class that a builder has built is the one that it returned, whatever is called then. -/
theorem built_of_build {b : Builder} {r : Registry} {c : Class}
    (h : outcomeOf (build (b, r)) = .ok c) (more : List (Registry × BuilderCall Ty ρ)) :
    (b.after ((r, .build) :: more)).built = some c := by
  have hfirst : b.after ((r, .build) :: more) =
      (next (b, r) (.build : BuilderCall Ty ρ)).1.after more := rfl
  rw [hfirst, next_of_built h, after_of_isBuilt rfl]

/-- A class that was built is the draft of its builder, compiled. -/
def Settled (b : Builder) : Prop := ∀ c, b.built = some c → ∃ key, c = b.draft.compile key

theorem settled_of_start {r : Registry} {name : String} {container : Option String}
    {base : Option Class} {b : Builder} (h : start r name container base = .ok b) : b.Settled := by
  intro c hc
  rw [built_of_start h] at hc
  cases hc

theorem Settled.next {b : Builder} (h : b.Settled) (r : Registry) (call : BuilderCall Ty ρ) :
    (next (b, r) call).1.Settled := by
  rcases b.next_cases r call with
    ⟨e, -, hnext⟩ | ⟨-, -, hnone, hnext⟩ | ⟨c, hcall, hbuild, -, -, hnext⟩
  · rwa [hnext]
  · rw [hnext]
    intro c hc
    rw [hnone] at hc
    cases hc
  · have hcompiled := build_eq_ok hbuild
    cases call with
    | build =>
      rw [hnext]
      intro c' hc'
      obtain rfl := Option.some.inj hc'
      exact ⟨r.allocate.1, hcompiled⟩
    | _ => cases hcall

theorem Settled.after {b : Builder} (h : b.Settled) (calls : List (Registry × BuilderCall Ty ρ)) :
    (b.after calls).Settled := by
  induction calls generalizing b with
  | nil => exact h
  | cons first rest ih =>
    obtain ⟨r, call⟩ := first
    exact ih (h.next r call)

/-- What a builder is like if its class was to be built before, and what it is like if not. -/
structure Lifecycle (ρ : Type) (b : Builder) (asked : Bool) : Prop where
  /-- The builder says that it is built exactly if the draft says that it is frozen. -/
  marks : b.isBuilt = b.draft.isFrozen
  /-- It is built if its class was to be built. -/
  built : b.isBuilt = asked
  /-- As long as it is not built, it builds its class when that is asked for, in any registry. -/
  builds : b.isBuilt = false → ∀ r : Registry, ∃ c,
    build (b, r) = .ok c (⟨{ b.draft with isFrozen := true }, some c⟩, r.allocate.2.register c)
  /-- Once it is built, it refuses every call, and no call changes it or the registry. -/
  refuses : b.isBuilt = true → ∀ (r : Registry) (call : BuilderCall Ty ρ),
    reply (b, r) call = b.refusal call ∧ next (b, r) call = (b, r)

/-- A builder goes through this from its opening on, whatever is called and whatever fails. -/
theorem lifecycle_after {r : Registry} {name : String} {container : Option String}
    {base : Option Class} {b : Builder} (h : start r name container base = .ok b)
    (calls : List (Registry × BuilderCall Ty ρ)) :
    Lifecycle ρ (b.after calls) (calls.any (·.2.isBuild)) := by
  obtain ⟨hunbuilt, hopen⟩ := marks_of_start h
  obtain ⟨hbuilt, hfrozen⟩ := marks_after (hunbuilt.trans hopen.symm) calls
  rw [hunbuilt, Bool.false_or] at hbuilt hfrozen
  have hmarks := hbuilt.trans hfrozen.symm
  exact
    { marks := hmarks
      built := hbuilt
      builds := fun hnot r => ⟨_, build_eq hnot (hmarks ▸ hnot) r⟩
      refuses := fun hdone r call => ⟨reply_of_isBuilt hdone r call, next_of_isBuilt hdone r call⟩ }

end Builder

namespace SourceBuilder

/-- Why a property of this name is not defined once the class has been built: the source lacks it,
or it is too late. -/
def lateError (b : SourceBuilder) (property : String) : Error :=
  if (b.source.property? property).isSome then .frozen b.builder.draft.name
  else .unknownSelection b.source.name property "property_selector"

/-- What a builder with a source answers once its class has been built. -/
def refusal (b : SourceBuilder) : BuilderCall Unit ρ → BuilderReply ρ
  | .define property () => .defined (.error (b.lateError property))
  | .defineWith property () _ => .definedWith ⟨.error (b.lateError property), none⟩
  | .configure _ _ => .configured ⟨.error (.frozen b.builder.draft.name), none⟩
  | .addAttribute _ => .attached (.error (.frozen b.builder.draft.name))
  | .build => .built (.error (.alreadyBuilt b.builder.draft.name))

/-- A selection that fails does so before the class was built and after. -/
theorem sourceType_eq_error {b : SourceBuilder} {property : String} {e : Error}
    (h : b.sourceType property = .error e) : e = b.lateError property := by
  unfold sourceType at h
  cases hfound : b.source.property? property with
  | some found => simp [hfound] at h
  | none => simpa [lateError, hfound] using h.symm

/-- A property that can be selected comes too late. -/
theorem lateError_of_sourceType {b : SourceBuilder} {property : String} {ty : Ty}
    (h : b.sourceType property = .ok ty) : b.lateError property = .frozen b.builder.draft.name := by
  unfold sourceType at h
  cases hfound : b.source.property? property with
  | some found => simp [lateError, hfound]
  | none => simp [hfound] at h

theorem reply_of_isBuilt {b : SourceBuilder} (h : b.builder.isBuilt) (r : Registry)
    (call : BuilderCall Unit ρ) : reply (b, r) call = b.refusal call := by
  have hbehind := Builder.reply_of_isBuilt (ρ := ρ) h r
  cases call with
  | define property selection =>
    cases hty : b.sourceType property with
    | error e => simp [reply, define, hty, refusal, outcomeOf, sourceType_eq_error hty]
    | ok ty =>
      rw [(eq_of_chosen (chosen_define hty) r).1, hbehind, refusal, lateError_of_sourceType hty]
      rfl
  | defineWith property selection configuration =>
    cases hty : b.sourceType property with
    | error e => simp [reply, defineWith, hty, refusal, sourceType_eq_error hty]
    | ok ty =>
      have hchosen := chosen_defineWith hty configuration
      rw [(eq_of_chosen hchosen r).1, hbehind, refusal, lateError_of_sourceType hty]
      rfl
  | configure handle configuration => exact hbehind (.configure handle configuration)
  | addAttribute a =>
    have hchosen : b.chosen (.addAttribute a : BuilderCall Unit ρ) = .ok (.addAttribute a) := rfl
    exact (eq_of_chosen hchosen r).1.trans (hbehind (.addAttribute a))
  | build =>
    have hchosen : b.chosen (.build : BuilderCall Unit ρ) = .ok .build := rfl
    exact (eq_of_chosen hchosen r).1.trans (hbehind .build)

theorem next_of_isBuilt {b : SourceBuilder} (h : b.builder.isBuilt) (r : Registry)
    (call : BuilderCall Unit ρ) : next (b, r) call = (b, r) := by
  cases hchosen : b.chosen call with
  | error e => exact next_of_refused hchosen r
  | ok behind => rw [(eq_of_chosen hchosen r).2, Builder.next_of_isBuilt h]

/-- A call to build the class is passed on as such, and no other call becomes one. -/
theorem isBuild_of_chosen {b : SourceBuilder} {call : BuilderCall Unit ρ}
    {behind : BuilderCall Ty ρ} (h : b.chosen call = .ok behind) :
    behind.isBuild = call.isBuild := by
  cases call with
  | define property selection =>
    cases hty : b.sourceType property with
    | error e => simp [chosen, hty, Except.map] at h
    | ok ty => exact Except.ok.inj ((chosen_define hty).symm.trans h) ▸ rfl
  | defineWith property selection configuration =>
    cases hty : b.sourceType property with
    | error e => simp [chosen, hty, Except.map] at h
    | ok ty => exact Except.ok.inj ((chosen_defineWith hty configuration).symm.trans h) ▸ rfl
  | configure handle configuration => exact Except.ok.inj h ▸ rfl
  | addAttribute a => exact Except.ok.inj h ▸ rfl
  | build => exact Except.ok.inj h ▸ rfl

/-- The source refuses no call to build the class. -/
theorem isBuild_of_refused {b : SourceBuilder} {call : BuilderCall Unit ρ} {e : Error}
    (h : b.chosen call = .error e) : call.isBuild = false := by
  obtain ⟨property, -, rfl | ⟨configuration, rfl⟩⟩ := exists_of_refused h <;> rfl

theorem any_isBuild_passedOn (b : SourceBuilder) (calls : List (Registry × BuilderCall Unit ρ)) :
    (b.passedOn calls).any (·.2.isBuild) = calls.any (·.2.isBuild) := by
  induction calls with
  | nil => rfl
  | cons first rest ih =>
    obtain ⟨r, call⟩ := first
    rw [List.any_cons]
    cases hchosen : b.chosen call with
    | error e => rw [passedOn_of_refused hchosen, ih, isBuild_of_refused hchosen, Bool.false_or]
    | ok behind => rw [passedOn_of_chosen hchosen, List.any_cons, ih, isBuild_of_chosen hchosen]

/-- What a builder with a source is like if its class was to be built before, and what it is like
if not. -/
structure Lifecycle (ρ : Type) (b : SourceBuilder) (asked : Bool) : Prop where
  /-- The builder says that it is built exactly if the draft says that it is frozen. -/
  marks : b.builder.isBuilt = b.builder.draft.isFrozen
  /-- It is built if its class was to be built. -/
  built : b.builder.isBuilt = asked
  /-- As long as it is not built, it builds its class when that is asked for, in any registry. -/
  builds : b.builder.isBuilt = false → ∀ r : Registry, ∃ c,
    build (b, r) = .ok c
      ({ b with builder := ⟨{ b.builder.draft with isFrozen := true }, some c⟩ },
        r.allocate.2.register c)
  /-- Once it is built, it refuses every call, and no call changes it or the registry. -/
  refuses : b.builder.isBuilt = true → ∀ (r : Registry) (call : BuilderCall Unit ρ),
    reply (b, r) call = b.refusal call ∧ next (b, r) call = (b, r)

/-- A builder with a source goes through this from its opening on. -/
theorem lifecycle_after {r : Registry} {source : Class} {name container : Option String}
    {inherit : Bool} {b : SourceBuilder} (h : start r source name container inherit = .ok b)
    (calls : List (Registry × BuilderCall Unit ρ)) :
    Lifecycle ρ (b.after calls) (calls.any (·.2.isBuild)) := by
  obtain ⟨-, hstart⟩ := builder_of_start h
  have hbehind := Builder.lifecycle_after hstart (b.passedOn calls)
  rw [← builder_after, any_isBuild_passedOn] at hbehind
  refine ⟨hbehind.marks, hbehind.built, ?_, ?_⟩
  · intro hnot r
    obtain ⟨c, hbuild⟩ := hbehind.builds hnot r
    exact ⟨c, by rw [build, hbuild]⟩
  · intro hdone r call
    exact ⟨reply_of_isBuilt hdone r call, next_of_isBuilt hdone r call⟩

/-- A builder with a source returns the class that the builder behind it builds. -/
theorem build_behind {b : SourceBuilder} {r : Registry} {c : Class}
    (h : outcomeOf (build (b, r)) = .ok c) : outcomeOf (Builder.build (b.builder, r)) = .ok c := by
  have hchosen : b.chosen (.build : BuilderCall Unit Unit) = .ok .build := rfl
  have hreply := (eq_of_chosen hchosen r).1
  exact (BuilderReply.built.inj hreply).symm.trans h

/-- The class that a builder with a source has built is the one that it returned, whatever is called
then. -/
theorem built_of_build {b : SourceBuilder} {r : Registry} {c : Class}
    (h : outcomeOf (build (b, r)) = .ok c) (more : List (Registry × BuilderCall Unit ρ)) :
    (b.after ((r, .build) :: more)).builder.built = some c := by
  have hchosen : b.chosen (.build : BuilderCall Unit ρ) = .ok .build := rfl
  rw [builder_after, passedOn_of_chosen hchosen]
  exact Builder.built_of_build (build_behind h) (b.passedOn more)

end SourceBuilder

/-- A builder is open until its class is to be built. Then it builds, whatever was called before and
whatever failed of that, and from there on it refuses every call; builder, registry and the returned
class stay as they are. A builder with a source does the same, except that the selection of a
property which the source lacks is refused as such. A draft by itself is realized at the first
attempt, whatever it was made to show, and refuses everything afterwards; the class that it was
realized to stays registered as it is, whatever the draft is made to show then. -/
theorem builds_once (ρ : Type) :
    (∀ (r₀ : Registry) (name : String) (container : Option String) (base : Option Class)
      (b₀ : Builder), Builder.start r₀ name container base = .ok b₀ →
      ∀ calls : List (Registry × BuilderCall Ty ρ),
        Builder.Lifecycle ρ (b₀.after calls) (calls.any (·.2.isBuild)) ∧
        ∀ r c more, outcomeOf (Builder.build (b₀.after calls, r)) = .ok c →
          (b₀.after (calls ++ (r, .build) :: more)).built = some c) ∧
    (∀ (r₀ : Registry) (source : Class) (name container : Option String) (inherit : Bool)
      (b₀ : SourceBuilder), SourceBuilder.start r₀ source name container inherit = .ok b₀ →
      ∀ calls : List (Registry × BuilderCall Unit ρ),
        SourceBuilder.Lifecycle ρ (b₀.after calls) (calls.any (·.2.isBuild)) ∧
        ∀ r c more, outcomeOf (SourceBuilder.build (b₀.after calls, r)) = .ok c →
          (b₀.after (calls ++ (r, .build) :: more)).builder.built = some c) ∧
    ∀ (key : Nat) (options : Options) (earlier : List RegistryCall) (name : String)
      (container : Option String) (base : Option Class) (d₀ : Draft),
      let r₀ := (Registry.empty key options).after earlier
      Draft.start r₀ name container base = .ok d₀ →
      ∀ steps : List DraftStep,
        Draft.Lifecycle (Draft.after (d₀, r₀) steps) (steps.any (·.isRealize)) ∧
        ∀ c more, outcomeOf (Draft.realize (Draft.after (d₀, r₀) steps)) = .ok c →
          (Draft.after (d₀, r₀) (steps ++ .realize :: more)).2.get? c.key.id = some c := by
  refine ⟨?_, ?_, ?_⟩
  · intro r₀ name container base b₀ hstart calls
    refine ⟨Builder.lifecycle_after hstart calls, ?_⟩
    intro r c more hbuild
    rw [Builder.after_append]
    exact Builder.built_of_build hbuild more
  · intro r₀ source name container inherit b₀ hstart calls
    refine ⟨SourceBuilder.lifecycle_after hstart calls, ?_⟩
    intro r c more hbuild
    rw [SourceBuilder.after_append]
    exact SourceBuilder.built_of_build hbuild more
  · intro key options earlier name container base d₀ r₀ hstart steps
    have hopen : d₀.isFrozen = false := by
      rw [← Draft.opening_of_start hstart]
      rfl
    refine ⟨Draft.lifecycle_after hopen steps, ?_⟩
    intro c more hrealize
    obtain ⟨calls, hcalls⟩ := Draft.registry_after (d₀, r₀) steps
    have hrefines := ((Registry.refines_empty key options).after earlier).after calls
    rw [Draft.after_append]
    exact Draft.get?_after_realize (hcalls ▸ hrefines) hrealize more

/-- A builder with the vehicle as its source, for a type that does not derive from it. -/
def Class.vehicleCopier : SourceBuilder where
  source := vehicle
  builder :=
    { draft :=
        { carBuilder.draft with
          name := "Vehicle", base := none, constructors := [], properties := [] }
      built := none }

/-- The car is built at the end of its run, and a property comes too late then. So does a property
of the vehicle for the copy of it, while one that the vehicle lacks is refused as such. The draft of
the car is given a name that is none and is realized all the same, but only once. -/
theorem builds_once_car :
    let r : Registry := .empty 0 {}
    let car := Builder.newCar.after (Builder.carCalls ++ [(r, .build)])
    let copier := Class.vehicleCopier.after [(r, (.build : BuilderCall Unit Unit))]
    let renamed : DraftStep := .overwrite { Builder.newCar.draft with name := "no name" }
    let realized := Draft.after (Builder.newCar.draft, r) [renamed, .realize]
    Builder.start r "Car" none (some Class.vehicle) = .ok Builder.newCar ∧
      car.isBuilt ∧
      Builder.reply (car, r) (.define "Late" .int : BuilderCall Ty Unit) =
        .defined (.error (.frozen "Car")) ∧
      SourceBuilder.start r Class.vehicle none none false = .ok Class.vehicleCopier ∧
      copier.builder.isBuilt ∧
      SourceBuilder.reply (copier, r) (.define "Label" () : BuilderCall Unit Unit) =
        .defined (.error (.frozen "Vehicle")) ∧
      SourceBuilder.reply (copier, r) (.define "Wings" () : BuilderCall Unit Unit) =
        .defined (.error (.unknownSelection "Vehicle" "Wings" "property_selector")) ∧
      Draft.realize realized = .error (.frozen "no name") realized ∧
      (realized.2.get? 0).map (·.name) = some "no name" := by
  intro r car copier renamed realized
  obtain ⟨hbuilders, hsources, hdrafts⟩ := builds_once Unit
  have hstart : Builder.start r "Car" none (some Class.vehicle) = .ok Builder.newCar := rfl
  have hcopier : SourceBuilder.start r Class.vehicle none none false = .ok Class.vehicleCopier := rfl
  have hdraft : Draft.start r "Car" none (some Class.vehicle) = .ok Builder.newCar.draft := rfl
  have hcar := (hbuilders _ _ _ _ _ hstart (Builder.carCalls ++ [(r, .build)])).1
  have hcopy := (hsources _ _ _ _ _ _ hcopier [(r, .build)]).1
  have hrealized := (hdrafts 0 {} [] _ _ _ _ hdraft [renamed, .realize]).1
  have hkept := (hdrafts 0 {} [] _ _ _ _ hdraft [renamed]).2 _ [] rfl
  refine ⟨hstart, hcar.built, (hcar.refuses hcar.built r _).1, hcopier, hcopy.built,
    (hcopy.refuses hcopy.built r _).1, (hcopy.refuses hcopy.built r _).1,
    (hrealized.refuses hrealized.frozen).1, ?_⟩
  have hfound : realized.2.get? 0 = some _ := hkept
  rw [hfound]
  rfl

end ClassSynthesis
