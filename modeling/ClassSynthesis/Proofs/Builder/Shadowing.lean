import ClassSynthesis.Proofs.Builder.Lifecycle

/-!
# The builder behind a builder with a source

A builder with a source is told the names of properties and looks their types up on the source.
Apart from that it is a free builder that is told the types: whatever is called on it, it answers as
the free builder does and leaves what that leaves. Only a property that the source lacks is refused,
and then nothing happens. What a run defines is what some of its calls were to define, so all of it
has a type from the source.
-/

namespace ClassSynthesis

variable {ρ : Type}

/-- The property that a call is to define, with what is given for its type. -/
def BuilderCall.definition? {τ : Type} : BuilderCall τ ρ → Option (String × τ)
  | .define name selection | .defineWith name selection _ => some (name, selection)
  | _ => none

/-- Attachments define nothing. -/
@[simp] theorem definitions_attachedEntries (target : Target)
    (attempts : List (Application × Except Error Unit)) :
    definitions (attachedEntries target attempts) = [] := by
  induction attempts with
  | nil => rfl
  | cons first rest ih =>
    obtain ⟨a, outcome⟩ := first
    rw [attachedEntries_cons, definitions_append, ih, List.append_nil]
    cases outcome with
    | error e => rfl
    | ok passed =>
      cases hmade : a.resolve with
      | error e => simp [attachedEntries, hmade, Except.toOption, definitions]
      | ok made => rw [attachedEntries_ok target hmade, definitions_attached]

namespace Builder

/-- A call defines nothing but what it is to define. -/
theorem definition?_of_mem {b : Builder} {call : BuilderCall Ty ρ}
    {defined : PropertyHandle × String × Ty} (h : defined ∈ definitions (b.entries call)) :
    call.definition? = some defined.2 := by
  cases call with
  | define name ty =>
    cases hrun : define name ty b with
    | error e left => simp [entries, hrun, definitions] at h
    | ok handle left =>
      obtain rfl : defined = (handle, name, ty) := by simpa [entries, hrun] using h
      rfl
  | defineWith name ty configuration =>
    cases hrun : define name ty b with
    | error e left => simp [entries, hrun, definitions] at h
    | ok handle left =>
      cases houtcome : (defineWith name ty configuration b).1.outcome with
      | error e => simp [entries, hrun, houtcome, definitions] at h
      | ok passed =>
        simp only [entries, hrun, houtcome] at h
        rw [← List.singleton_append, definitions_append] at h
        obtain rfl : defined = (handle, name, ty) := by simpa using h
        rfl
  | configure handle configuration =>
    rw [entries] at h
    split at h
    · simp at h
    · simp [definitions] at h
  | addAttribute a => simp [entries] at h
  | build => simp [entries, definitions] at h

/-- What a run defines one of its calls was to define. -/
theorem exists_call_of_mem {b : Builder} {calls : List (Registry × BuilderCall Ty ρ)}
    {defined : PropertyHandle × String × Ty} (h : defined ∈ definitions (b.log calls)) :
    ∃ r call, (r, call) ∈ calls ∧ call.definition? = some defined.2 := by
  induction calls generalizing b with
  | nil => simp [log, definitions] at h
  | cons first rest ih =>
    obtain ⟨r, call⟩ := first
    rw [log, definitions_append, List.mem_append] at h
    rcases h with h | h
    · exact ⟨r, call, List.mem_cons_self, definition?_of_mem h⟩
    · obtain ⟨r', call', hmem, hdefinition⟩ := ih h
      exact ⟨r', call', List.mem_cons_of_mem _ hmem, hdefinition⟩

/-- A class that is there after a run and was not there before has been built by a call of it. -/
theorem exists_build_of_built {b : Builder} (hnone : b.built = none)
    {calls : List (Registry × BuilderCall Ty ρ)} {c : Class} (h : (b.after calls).built = some c) :
    ∃ before r rest, calls = before ++ (r, .build) :: rest ∧
      outcomeOf (build (b.after before, r)) = .ok c := by
  induction calls generalizing b with
  | nil =>
    have hsome : b.built = some c := h
    rw [hnone] at hsome
    cases hsome
  | cons first rest ih =>
    obtain ⟨r, call⟩ := first
    have hrest : ((next (b, r) call).1.after rest).built = some c := h
    -- Until the class is built there is none, so the induction goes on.
    have hlater (hopen : (next (b, r) call).1.built = none) :
        ∃ before r' rest', (r, call) :: rest = before ++ (r', .build) :: rest' ∧
          outcomeOf (build (b.after before, r')) = .ok c := by
      obtain ⟨before, r', rest', rfl, hbuild⟩ := ih hopen hrest
      exact ⟨(r, call) :: before, r', rest', rfl, hbuild⟩
    rcases b.next_cases r call with
      ⟨e, -, hnext⟩ | ⟨-, -, -, hnext⟩ | ⟨made, hcall, hbuild, -, -, hnext⟩
    · exact hlater (by rw [hnext]; exact hnone)
    · exact hlater (by rw [hnext]; exact hnone)
    · cases call with
      | build =>
        rw [hnext, after_of_isBuilt rfl] at hrest
        obtain rfl := Option.some.inj hrest
        exact ⟨[], r, rest, rfl, hbuild⟩
      | _ => cases hcall

end Builder

namespace SourceBuilder

theorem mem_passedOn {b : SourceBuilder} {calls : List (Registry × BuilderCall Unit ρ)}
    {r : Registry} {behind : BuilderCall Ty ρ} :
    (r, behind) ∈ b.passedOn calls ↔ ∃ call, (r, call) ∈ calls ∧ b.chosen call = .ok behind := by
  simp only [passedOn, List.mem_filterMap, Prod.exists, Option.map_eq_some_iff, Prod.mk.injEq]
  constructor
  · rintro ⟨r', call, hmem, behind', hchosen, rfl, rfl⟩
    refine ⟨call, hmem, ?_⟩
    cases h : b.chosen call with
    | error e => simp [h, Except.toOption] at hchosen
    | ok other => simpa [h, Except.toOption] using hchosen
  · rintro ⟨call, hmem, hchosen⟩
    exact ⟨r, call, hmem, behind, by simp [hchosen, Except.toOption], rfl, rfl⟩

/-- A property that can be selected is visible on the source. -/
theorem exists_of_sourceType {b : SourceBuilder} {property : String} {ty : Ty}
    (h : b.sourceType property = .ok ty) :
    ∃ owner q, b.source.property? property = some (owner, q) ∧ q.ty = ty := by
  unfold sourceType at h
  cases hfound : b.source.property? property with
  | none => simp [hfound] at h
  | some found =>
    obtain ⟨owner, q⟩ := found
    exact ⟨owner, q, rfl, by simpa [hfound] using h⟩

/-- A definition that is passed on has the type that the property has on the source, and other calls
do not become definitions. -/
theorem definition?_of_chosen {b : SourceBuilder} {call : BuilderCall Unit ρ}
    {behind : BuilderCall Ty ρ} (h : b.chosen call = .ok behind) :
    (∃ property owner q, call.definition? = some (property, ()) ∧
      b.source.property? property = some (owner, q) ∧
      behind.definition? = some (property, q.ty)) ∨
    (call.definition? = none ∧ behind.definition? = none) := by
  cases call with
  | define property selection =>
    cases hty : b.sourceType property with
    | error e => simp [chosen, hty, Except.map] at h
    | ok ty =>
      obtain rfl := Except.ok.inj ((chosen_define hty).symm.trans h)
      obtain ⟨owner, q, hq, rfl⟩ := exists_of_sourceType hty
      exact .inl ⟨property, owner, q, rfl, hq, rfl⟩
  | defineWith property selection configuration =>
    cases hty : b.sourceType property with
    | error e => simp [chosen, hty, Except.map] at h
    | ok ty =>
      obtain rfl := Except.ok.inj ((chosen_defineWith hty configuration).symm.trans h)
      obtain ⟨owner, q, hq, rfl⟩ := exists_of_sourceType hty
      exact .inl ⟨property, owner, q, rfl, hq, rfl⟩
  | configure handle configuration => exact Except.ok.inj h ▸ .inr ⟨rfl, rfl⟩
  | addAttribute a => exact Except.ok.inj h ▸ .inr ⟨rfl, rfl⟩
  | build => exact Except.ok.inj h ▸ .inr ⟨rfl, rfl⟩

/-- A call is passed on unless it is to define a property that the source lacks. -/
theorem exists_chosen_of_visible {b : SourceBuilder} {call : BuilderCall Unit ρ}
    (h : ∀ property, call.definition? = some (property, ()) →
      (b.source.property? property).isSome) : ∃ behind, b.chosen call = .ok behind := by
  cases hchosen : b.chosen call with
  | ok behind => exact ⟨behind, rfl⟩
  | error e =>
    obtain ⟨property, hty, hcall⟩ := exists_of_refused hchosen
    have hsome : (b.source.property? property).isSome := by
      rcases hcall with rfl | ⟨configuration, rfl⟩
      · exact h property rfl
      · exact h property rfl
    obtain ⟨found, hfound⟩ := Option.isSome_iff_exists.mp hsome
    simp [sourceType, hfound] at hty

end SourceBuilder

/-- A builder with a source stands like a free builder. -/
structure SourceBuilder.Shadows (ρ : Type) (b : SourceBuilder) (source : Class) (free : Builder) :
    Prop where
  /-- It is the free builder with the source. -/
  state : b = ⟨source, free⟩
  /-- A property that is visible nowhere on the source is refused as such, and nothing happens. -/
  refuses : ∀ property, source.property? property = none →
    ∀ (r : Registry) (call : BuilderCall Unit ρ), call.definition? = some (property, ()) →
      (reply (b, r) call).error? =
          some (.unknownSelection source.name property "property_selector") ∧
        next (b, r) call = (b, r)
  /-- Every other call comes to what the same call on the free builder comes to, with the type
  written out that the property has on the source. -/
  follows : ∀ (r : Registry) (call : BuilderCall Unit ρ),
    (∀ property, call.definition? = some (property, ()) →
      (source.property? property).isSome) →
    ∃ behind, b.chosen call = .ok behind ∧
      (∀ property, call.definition? = some (property, ()) → ∃ owner q,
        source.property? property = some (owner, q) ∧
          behind.definition? = some (property, q.ty)) ∧
      reply (b, r) call = Builder.reply (free, r) behind ∧
      next (b, r) call = (⟨source, (Builder.next (free, r) behind).1⟩,
        (Builder.next (free, r) behind).2)

namespace SourceBuilder

/-- A builder with a source is always one with a free builder behind it. -/
theorem shadows (b : SourceBuilder) : b.Shadows ρ b.source b.builder where
  state := rfl
  refuses := by
    intro property hnone r call hcall
    have hty : b.sourceType property =
        .error (.unknownSelection b.source.name property "property_selector") := by
      simp only [sourceType, hnone]
    have hchosen : b.chosen call =
        .error (.unknownSelection b.source.name property "property_selector") := by
      cases call with
      | define name selection =>
        obtain rfl := (Prod.mk.inj (Option.some.inj hcall)).1
        simp [chosen, hty, Except.map]
      | defineWith name selection configuration =>
        obtain rfl := (Prod.mk.inj (Option.some.inj hcall)).1
        simp [chosen, hty, Except.map]
      | configure handle configuration => cases hcall
      | addAttribute a => cases hcall
      | build => cases hcall
    exact ⟨error?_of_refused hchosen r, next_of_refused hchosen r⟩
  follows := by
    intro r call hvisible
    obtain ⟨behind, hchosen⟩ := exists_chosen_of_visible hvisible
    refine ⟨behind, hchosen, ?_, eq_of_chosen hchosen r⟩
    intro property hcall
    rcases definition?_of_chosen hchosen with
      ⟨property', owner, q, hcall', hq, hbehind⟩ | ⟨hnone, -⟩
    · obtain rfl : property' = property := by simpa [hcall] using hcall'.symm
      exact ⟨owner, q, hq, hbehind⟩
    · rw [hcall] at hnone
      cases hnone

theorem source_after (b : SourceBuilder) (calls : List (Registry × BuilderCall Unit ρ)) :
    (b.after calls).source = b.source := by
  induction calls generalizing b with
  | nil => rfl
  | cons first rest ih =>
    obtain ⟨r, call⟩ := first
    exact (ih (next (b, r) call).1).trans (source_next b r call)

end SourceBuilder

end ClassSynthesis
