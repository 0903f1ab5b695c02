import ClassSynthesis.SourceBuilder

/-!
# Calls on builders

A builder is used through calls: properties are defined, configured and given attributes, and at
some time the class is built. A call answers, and leaves the builder and its registry in a state
that is defined whether the call succeeds or not. Between two calls the registry may change, since
other builders and declarations use it too.
-/

namespace ClassSynthesis

/-- One call on a builder. A builder takes something of type `τ` for the type of a property, and
configurations report something of type `ρ`. -/
inductive BuilderCall (τ ρ : Type) where
  /-- Define a property. -/
  | define (name : String) (selection : τ)
  /-- Define a property and configure it. -/
  | defineWith (name : String) (selection : τ) (configuration : PropertyScope → Configuration ρ)
  /-- Configure a property that was defined before. -/
  | configure (handle : PropertyHandle) (configuration : PropertyScope → Configuration ρ)
  /-- Attach an attribute to the type. -/
  | addAttribute (a : Application)
  /-- Build the class. -/
  | build

/-- What a call on a builder answers. -/
inductive BuilderReply (ρ : Type) where
  /-- The handle of the defined property. -/
  | defined (outcome : Except Error PropertyHandle)
  /-- How the definition and configuration of a property ended. -/
  | definedWith (outcome : Configured ρ)
  /-- How the configuration of a property ended. -/
  | configured (outcome : Configured ρ)
  /-- Whether the attribute was attached. -/
  | attached (outcome : Except Error Unit)
  /-- The class. -/
  | built (outcome : Except Error Class)

/-- The error of a call that failed. To configure a property that was defined before is to ask for
it first and to apply attributes then, each of which is an operation of its own; so the call fails
only where the configuration is not carried out. -/
def BuilderReply.error? {ρ : Type} : BuilderReply ρ → Option Error
  | defined (.error e) | attached (.error e) | built (.error e) => some e
  | definedWith ⟨.error e, _⟩ | configured ⟨.error e, none⟩ => some e
  | _ => none

/-- The outcome of an operation on a state. -/
def outcomeOf {σ α : Type} : EStateM.Result Error σ α → Except Error α
  | .ok a _ => .ok a
  | .error e _ => .error e

/-- The state after an operation, whether it succeeded or failed. -/
def stateOf {σ α : Type} : EStateM.Result Error σ α → σ
  | .ok _ s => s
  | .error _ s => s

namespace Builder

variable {ρ : Type}

/-- The answer to a call on a builder with its registry. -/
def reply : Builder × Registry → BuilderCall Ty ρ → BuilderReply ρ
  | (b, _), .define name ty => .defined (outcomeOf (define name ty b))
  | (b, _), .defineWith name ty configuration =>
    .definedWith (defineWith name ty configuration b).1
  | (b, _), .configure handle configuration => .configured (configure handle configuration b).1
  | (b, _), .addAttribute a => .attached (outcomeOf (addAttribute a b))
  | s, .build => .built (outcomeOf (build s))

/-- A builder and its registry after a call. -/
def next : Builder × Registry → BuilderCall Ty ρ → Builder × Registry
  | (b, r), .define name ty => (stateOf (define name ty b), r)
  | (b, r), .defineWith name ty configuration => ((defineWith name ty configuration b).2, r)
  | (b, r), .configure handle configuration => ((configure handle configuration b).2, r)
  | (b, r), .addAttribute a => (stateOf (addAttribute a b), r)
  | s, .build => stateOf (build s)

/-- The states of builders that were opened with a given base class. -/
inductive Reachable (base : Option Class) : Builder → Prop
  /-- A builder that was just opened. -/
  | start {r : Registry} {name : String} {container : Option String} {b : Builder}
      (h : start r name container base = .ok b) : Reachable base b
  /-- A builder after one more call, with its registry in any state. -/
  | call {ρ : Type} {b : Builder} (h : Reachable base b) (r : Registry)
      (call : BuilderCall Ty ρ) : Reachable base (next (b, r) call).1

end Builder

namespace SourceBuilder

variable {ρ : Type}

/-- The answer to a call on a builder with a source and with its registry. -/
def reply : SourceBuilder × Registry → BuilderCall Unit ρ → BuilderReply ρ
  | (b, _), .define property () => .defined (outcomeOf (define property b))
  | (b, _), .defineWith property () configuration =>
    .definedWith (defineWith property configuration b).1
  | (b, _), .configure handle configuration => .configured (configure handle configuration b).1
  | (b, _), .addAttribute a => .attached (outcomeOf (addAttribute a b))
  | s, .build => .built (outcomeOf (build s))

/-- A builder with a source and its registry after a call. -/
def next : SourceBuilder × Registry → BuilderCall Unit ρ → SourceBuilder × Registry
  | (b, r), .define property () => (stateOf (define property b), r)
  | (b, r), .defineWith property () configuration => ((defineWith property configuration b).2, r)
  | (b, r), .configure handle configuration => ((configure handle configuration b).2, r)
  | (b, r), .addAttribute a => (stateOf (addAttribute a b), r)
  | s, .build => stateOf (build s)

/-- The states of builders with a source, with the base class that they were opened with: the
source itself, or none. -/
inductive Reachable : Option Class → SourceBuilder → Prop
  /-- A builder that was just opened. -/
  | start {r : Registry} {source : Class} {name container : Option String} {inherit : Bool}
      {b : SourceBuilder} (h : start r source name container inherit = .ok b) :
      Reachable (if inherit then some source else none) b
  /-- A builder after one more call, with its registry in any state. -/
  | call {ρ : Type} {base : Option Class} {b : SourceBuilder} (h : Reachable base b)
      (r : Registry) (call : BuilderCall Unit ρ) : Reachable base (next (b, r) call).1

/-- The call on the builder behind a builder with a source, unless no such property is visible on
the source. -/
def chosen (b : SourceBuilder) : BuilderCall Unit ρ → Except Error (BuilderCall Ty ρ)
  | .define property () => (b.sourceType property).map (.define property ·)
  | .defineWith property () configuration =>
    (b.sourceType property).map (.defineWith property · configuration)
  | .configure handle configuration => .ok (.configure handle configuration)
  | .addAttribute a => .ok (.addAttribute a)
  | .build => .ok .build

/-- A call for a property that the source lacks does nothing. -/
theorem next_of_refused {b : SourceBuilder} {call : BuilderCall Unit ρ} {e : Error}
    (h : b.chosen call = .error e) (r : Registry) : next (b, r) call = (b, r) := by
  cases call with
  | define property selection =>
    cases hty : b.sourceType property with
    | ok ty => simp [chosen, hty, Except.map] at h
    | error e' => simp [next, define, hty, stateOf]
  | defineWith property selection configuration =>
    cases hty : b.sourceType property with
    | ok ty => simp [chosen, hty, Except.map] at h
    | error e' => simp [next, defineWith, hty]
  | configure handle configuration => cases h
  | addAttribute a => cases h
  | build => cases h

/-- Any other call does what the builder behind it does, and answers what that answers. -/
theorem eq_of_chosen {b : SourceBuilder} {call : BuilderCall Unit ρ} {behind : BuilderCall Ty ρ}
    (h : b.chosen call = .ok behind) (r : Registry) :
    reply (b, r) call = Builder.reply (b.builder, r) behind ∧
      next (b, r) call = ({ b with builder := (Builder.next (b.builder, r) behind).1 },
        (Builder.next (b.builder, r) behind).2) := by
  cases call with
  | define property selection =>
    cases hty : b.sourceType property with
    | error e => simp [chosen, hty, Except.map] at h
    | ok ty =>
      obtain rfl : .define property ty = behind := by simpa [chosen, hty, Except.map] using h
      simp only [reply, next, Builder.reply, Builder.next, define, hty, onBuilder]
      cases Builder.define property ty b.builder <;> exact ⟨rfl, rfl⟩
  | defineWith property selection configuration =>
    cases hty : b.sourceType property with
    | error e => simp [chosen, hty, Except.map] at h
    | ok ty =>
      obtain rfl : .defineWith property ty configuration = behind := by
        simpa [chosen, hty, Except.map] using h
      simp only [reply, next, Builder.reply, Builder.next, defineWith, hty]
      exact ⟨rfl, rfl⟩
  | configure handle configuration =>
    obtain rfl : .configure handle configuration = behind := Except.ok.inj h
    exact ⟨rfl, rfl⟩
  | addAttribute a =>
    obtain rfl : .addAttribute a = behind := Except.ok.inj h
    simp only [reply, next, Builder.reply, Builder.next, addAttribute, onBuilder]
    cases Builder.addAttribute a b.builder <;> exact ⟨rfl, rfl⟩
  | build =>
    obtain rfl : .build = behind := Except.ok.inj h
    simp only [reply, next, Builder.reply, Builder.next, build]
    cases Builder.build (b.builder, r) <;> exact ⟨rfl, rfl⟩

end SourceBuilder

end ClassSynthesis
