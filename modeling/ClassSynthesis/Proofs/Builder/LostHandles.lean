import ClassSynthesis.Proofs.Builder.Handles

/-!
# Handles of properties that are gone

A configuration is given the handle of its property and may hand it on before it fails. Then the
property is gone, but the handle is still about. It reaches nothing as long as no other property is
defined. But a handle is no more than a place, and the next property that is defined takes the place
that became free. From then on the handle reaches that one, under whatever name it was defined, and
attributes that are meant for the property that is gone go there.
-/

namespace ClassSynthesis

variable {ρ : Type}

namespace Builder

/-- The property that a configuration through the handle is for. If the class has been built, or if
the handle stands for nothing, there is none. -/
def reached? (b : Builder) (handle : PropertyHandle) : Option DraftProperty :=
  if b.isBuilt then none else b.draft.property? handle

/-- A configuration through a handle is carried out on the property that is reached, so everything
that it attaches goes there. It is refused if none is reached. -/
theorem configure_eq (handle : PropertyHandle) (configuration : PropertyScope → Configuration ρ)
    (b : Builder) :
    configure handle configuration b =
      match b.reached? handle with
      | none =>
        (⟨.error (if b.isBuilt then .frozen b.draft.name else b.draft.unknownHandle handle),
          none⟩, b)
      | some p =>
        (((configuration ⟨handle, p.name⟩).run handle b.draft).1,
          { b with
            draft := b.draft.addAttributes handle
              ((configuration ⟨handle, p.name⟩).attachments handle b.draft) }) := by
  cases hbuilt : b.isBuilt with
  | true => simp [configure, checkUnbuilt, reached?, hbuilt]
  | false =>
    cases hp : b.draft.property? handle with
    | none => simp [configure, checkUnbuilt, reached?, hbuilt, hp]
    | some p => simp [configure, checkUnbuilt, reached?, hbuilt, hp, Configuration.run_eq]

/-- The configuration of a property of this name was given the handle and has failed, so that the
property is gone, with the builder as it is then. -/
inductive Lost : Builder → PropertyHandle → String → Prop
  /-- The definition itself has succeeded. -/
  | failed {ρ : Type} {b left : Builder} {r : Registry} {name : String} {ty : Ty}
      {configuration : PropertyScope → Configuration ρ} {handle : PropertyHandle} {e : Error}
      (hdefine : define name ty b = .ok handle left)
      (h : (defineWith name ty configuration b).1.outcome = .error e) :
      Lost (next (b, r) (.defineWith name ty configuration)).1 handle name

/-- The handle stands for the place behind all properties, and more can be defined. -/
theorem Lost.eq_nextHandle {b : Builder} {handle : PropertyHandle} {property : String}
    (h : Lost b handle property) : handle = b.draft.nextHandle ∧ b.isBuilt = false := by
  cases h with
  | @failed ρ b left r name ty configuration handle e hdefine h =>
    have hback : (next (b, r) (.defineWith property ty configuration)).1 = b :=
      defineWith_eq_self h
    obtain ⟨-, hhandle, -⟩ := define_eq_ok hdefine
    rw [hback]
    refine ⟨hhandle, ?_⟩
    cases hbuilt : b.isBuilt with
    | false => rfl
    | true => simp [define, onDraft, checkUnbuilt, hbuilt] at hdefine

/-- What became of a handle to a property that is gone. Since then there was the log, and the class
was or was not to be built. -/
structure ReachesNext (b : Builder) (handle : PropertyHandle) (property : String) (asked : Bool)
    (log : List LogEntry) : Prop where
  /-- Before the class was to be built, the handle reaches the property that was defined first, if
  any was. -/
  next : (b.reached? handle).map (fun p => (p.name, p.ty)) =
    if asked then none else (definitions log).head?.map (·.2)
  /-- So it reaches none of another name exactly if the class was to be built, or nothing was
  defined, or the first definition was one of the same name. -/
  same_iff : (∀ p, b.reached? handle = some p → p.name = property) ↔
    asked ∨ ∀ defined ∈ (definitions log).head?, defined.2.1 = property

/-- The place behind all properties is taken by the one that is defined next. -/
theorem head?_definitions_log {b : Builder} {log : List LogEntry} (hrecords : b.draft.Records log)
    (more : List (Registry × BuilderCall Ty ρ)) :
    (definitions (b.log more)).head? =
      ((b.after more).draft.property? b.draft.nextHandle).map fun p =>
        (b.draft.nextHandle, p.name, p.ty) := by
  have hcount : (definitions log).length = b.draft.properties.length := by
    simp [hrecords.properties]
  have hlater := (records_after hrecords more).properties
  rw [definitions_append] at hlater
  calc (definitions (b.log more)).head?
      = (definitions log ++ definitions (b.log more))[b.draft.properties.length]? := by
        rw [List.getElem?_append_right (Nat.le_of_eq hcount), hcount, Nat.sub_self,
          List.head?_eq_getElem?]
    _ = _ := by
        rw [hlater, List.getElem?_mapIdx]
        rfl

/-- What becomes of a handle of the place behind all properties, in the course of any run. -/
theorem reachesNext_after {b : Builder} (hmarks : b.isBuilt = b.draft.isFrozen)
    (hopen : b.isBuilt = false) {log : List LogEntry} (hrecords : b.draft.Records log)
    (property : String) (more : List (Registry × BuilderCall Ty ρ)) :
    (b.after more).ReachesNext b.draft.nextHandle property (more.any (·.2.isBuild))
      (b.log more) := by
  have hbuilt : (b.after more).isBuilt = more.any (·.2.isBuild) := by
    rw [(marks_after hmarks more).1, hopen, Bool.false_or]
  constructor
  · rw [reached?, hbuilt, head?_definitions_log hrecords]
    cases more.any (·.2.isBuild) <;> simp [Function.comp_def]
  · rw [reached?, hbuilt, head?_definitions_log hrecords]
    cases more.any (·.2.isBuild) <;> simp

end Builder

namespace SourceBuilder

/-- The configuration of a property that was selected by this name was given the handle and has
failed, so that the property is gone, with the builder as it is then. -/
inductive Lost : SourceBuilder → PropertyHandle → String → Prop
  /-- The definition itself has succeeded. -/
  | failed {ρ : Type} {b left : SourceBuilder} {r : Registry} {property : String}
      {configuration : PropertyScope → Configuration ρ} {handle : PropertyHandle} {e : Error}
      (hdefine : define property b = .ok handle left)
      (h : (defineWith property configuration b).1.outcome = .error e) :
      Lost (next (b, r) (.defineWith property () configuration)).1 handle property

/-- A handle that is lost with a builder with a source is lost with the builder behind. -/
theorem Lost.behind {b : SourceBuilder} {handle : PropertyHandle} {property : String}
    (h : Lost b handle property) : Builder.Lost b.builder handle property := by
  cases h with
  | @failed ρ b left r _ configuration _ e hdefine h =>
    obtain ⟨ty, behind, hty, hrun⟩ := define_eq_ok hdefine
    simp only [defineWith, hty] at h
    rw [(eq_of_chosen (chosen_defineWith hty configuration) r).2]
    exact .failed (r := r) hrun h

end SourceBuilder

/-- A handle to a property that is gone reaches nothing until another property is defined, and from
then on, as long as the class has not been built, it reaches that one, with a builder as with a
builder with a source. Whether the two have one name is up to the run. What is configured through
the handle is configured on the property that is reached. -/
theorem lost_handles_reach_next (ρ : Type) :
    (∀ (r₀ : Registry) (name : String) (container : Option String) (base : Option Class)
      (b₀ : Builder), Builder.start r₀ name container base = .ok b₀ →
      ∀ calls : List (Registry × BuilderCall Ty ρ),
        let b := b₀.after calls
        ∀ handle property, Builder.Lost b handle property →
          ∀ more : List (Registry × BuilderCall Ty ρ),
            (b.after more).ReachesNext handle property (more.any (·.2.isBuild)) (b.log more)) ∧
    (∀ (r₀ : Registry) (source : Class) (name container : Option String) (inherit : Bool)
      (b₀ : SourceBuilder), SourceBuilder.start r₀ source name container inherit = .ok b₀ →
      ∀ calls : List (Registry × BuilderCall Unit ρ),
        let b := b₀.after calls
        ∀ handle property, SourceBuilder.Lost b handle property →
          ∀ more : List (Registry × BuilderCall Unit ρ),
            (b.after more).builder.ReachesNext handle property (more.any (·.2.isBuild))
              (b.builder.log (b.passedOn more))) ∧
    ∀ (b : Builder) (handle : PropertyHandle) (configuration : PropertyScope → Configuration ρ),
      Builder.configure handle configuration b =
        match b.reached? handle with
        | none =>
          (⟨.error (if b.isBuilt then .frozen b.draft.name else b.draft.unknownHandle handle),
            none⟩, b)
        | some p =>
          (((configuration ⟨handle, p.name⟩).run handle b.draft).1,
            { b with
              draft := b.draft.addAttributes handle
                ((configuration ⟨handle, p.name⟩).attachments handle b.draft) }) := by
  refine ⟨?_, ?_, fun b handle configuration => Builder.configure_eq handle configuration b⟩
  · intro r₀ name container base b₀ hstart calls b handle property hlost more
    obtain ⟨rfl, hopen⟩ := hlost.eq_nextHandle
    have hrecords :=
      Builder.records_after (Draft.Records.start (Builder.draft_of_start hstart)) calls
    exact Builder.reachesNext_after (Builder.lifecycle_after hstart calls).marks hopen hrecords
      property more
  · intro r₀ source name container inherit b₀ hstart calls b handle property hlost more
    obtain ⟨-, hbehind⟩ := SourceBuilder.builder_of_start hstart
    obtain ⟨rfl, hopen⟩ := hlost.behind.eq_nextHandle
    have hrecords := Builder.records_after (Draft.Records.start (Builder.draft_of_start hbehind))
      (b₀.passedOn calls)
    rw [← SourceBuilder.builder_after] at hrecords
    have hreaches := Builder.reachesNext_after (SourceBuilder.lifecycle_after hstart calls).marks
      hopen hrecords property (b.passedOn more)
    rwa [SourceBuilder.any_isBuild_passedOn, ← SourceBuilder.builder_after] at hreaches

/-- A door is defined and marked. A second mark does not fit, so the door is gone again. -/
def Builder.doomedDoor : BuilderCall Ty Unit :=
  .defineWith "Door" .str fun _ => .ofList [⟨marker, [], none⟩, ⟨marker, [.int 1], none⟩]

/-- The car after that. -/
def Builder.doorlessCar : Builder := newCar.after [(.empty 0 {}, doomedDoor)]

theorem Builder.lost_doorlessCar : Lost doorlessCar ⟨0⟩ "Door" :=
  @Lost.failed Unit newCar _ (.empty 0 {}) "Door" .str
    (fun _ => .ofList [⟨marker, [], none⟩, ⟨marker, [.int 1], none⟩]) ⟨0⟩ _ rfl rfl

/-- If the door is defined once more, now for yes or no, it is the new one that is reached. -/
theorem lost_handles_reach_next_door :
    Builder.start (.empty 0 {}) "Car" none (some Class.vehicle) = .ok Builder.newCar ∧
      Builder.Lost Builder.doorlessCar ⟨0⟩ "Door" ∧
      (Builder.doorlessCar.after
          [(.empty 0 {}, (.define "Door" .bool : BuilderCall Ty Unit))]).ReachesNext ⟨0⟩ "Door"
        false [.defined ⟨0⟩ "Door" .bool] := by
  have hstart : Builder.start (.empty 0 {}) "Car" none (some Class.vehicle) =
      .ok Builder.newCar := rfl
  have hlost := Builder.lost_doorlessCar
  exact ⟨hstart, hlost, (lost_handles_reach_next Unit).1 _ _ _ _ _ hstart
    [(.empty 0 {}, Builder.doomedDoor)] ⟨0⟩ "Door" hlost
    [(.empty 0 {}, (.define "Door" .bool : BuilderCall Ty Unit))]⟩

/-- If a colour is defined next, it is the colour that is reached through the handle of the door,
and a mark that is meant for the door goes to the colour. -/
theorem lost_door_reaches_colour :
    let coloured := Builder.doorlessCar.after
      [(.empty 0 {}, (.define "Colour" .str : BuilderCall Ty Unit))]
    let marked := coloured.after
      [(.empty 0 {}, .configure ⟨0⟩ fun _ => .ofList [⟨marker, [], none⟩])]
    Builder.start (.empty 0 {}) "Car" none (some Class.vehicle) = .ok Builder.newCar ∧
      Builder.Lost Builder.doorlessCar ⟨0⟩ "Door" ∧
      Builder.doorlessCar.reached? ⟨0⟩ = none ∧
      ¬ (∀ p, coloured.reached? ⟨0⟩ = some p → p.name = "Door") ∧
      marked.draft.properties = [⟨"Colour", .str, "_colour", [⟨marker, 0, [], []⟩]⟩] := by
  intro coloured marked
  have hcolour : coloured.reached? ⟨0⟩ = some ⟨"Colour", .str, "_colour", []⟩ := rfl
  refine ⟨rfl, Builder.lost_doorlessCar, rfl, ?_, rfl⟩
  intro hsame
  exact absurd (hsame _ hcolour) (by decide)

end ClassSynthesis
