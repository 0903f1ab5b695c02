import ClassSynthesis.Proofs.Builder.Replay

/-!
# Runs of builders with a source

A builder with a source passes a call on to the builder behind it, or refuses the call since its
source lacks the property. So a run of calls on the one is a run on the other, without the calls
that are refused, and what holds of builders after every run holds of those with a source too.
-/

namespace ClassSynthesis

variable {ρ : Type}

theorem Builder.after_append (b : Builder) (calls more : List (Registry × BuilderCall Ty ρ)) :
    b.after (calls ++ more) = (b.after calls).after more := List.foldl_append

namespace SourceBuilder

/-- A builder with a source after a run of calls, each with the registry as it is then. -/
def after (b : SourceBuilder) (calls : List (Registry × BuilderCall Unit ρ)) : SourceBuilder :=
  calls.foldl (fun b (r, call) => (next (b, r) call).1) b

theorem after_append (b : SourceBuilder) (calls more : List (Registry × BuilderCall Unit ρ)) :
    b.after (calls ++ more) = (b.after calls).after more := List.foldl_append

/-- The calls of a run that reach the builder behind. -/
def passedOn (b : SourceBuilder) (calls : List (Registry × BuilderCall Unit ρ)) :
    List (Registry × BuilderCall Ty ρ) :=
  calls.filterMap fun (r, call) => (b.chosen call).toOption.map (r, ·)

theorem passedOn_of_refused {b : SourceBuilder} {call : BuilderCall Unit ρ} {e : Error}
    (h : b.chosen call = .error e) (r : Registry) (rest : List (Registry × BuilderCall Unit ρ)) :
    b.passedOn ((r, call) :: rest) = b.passedOn rest :=
  List.filterMap_cons_none (by simp [h, Except.toOption])

theorem passedOn_of_chosen {b : SourceBuilder} {call : BuilderCall Unit ρ}
    {behind : BuilderCall Ty ρ} (h : b.chosen call = .ok behind) (r : Registry)
    (rest : List (Registry × BuilderCall Unit ρ)) :
    b.passedOn ((r, call) :: rest) = (r, behind) :: b.passedOn rest :=
  List.filterMap_cons_some (by simp [h, Except.toOption])

/-- Which call is passed on depends on the source only. -/
theorem chosen_congr {b b' : SourceBuilder} (h : b.source = b'.source)
    (call : BuilderCall Unit ρ) : b.chosen call = b'.chosen call := by
  cases call <;> simp only [chosen, sourceType, h]

theorem chosen_define {b : SourceBuilder} {property : String} {ty : Ty}
    (h : b.sourceType property = .ok ty) :
    b.chosen (.define property () : BuilderCall Unit ρ) = .ok (.define property ty) := by
  simp [chosen, h, Except.map]

theorem chosen_defineWith {b : SourceBuilder} {property : String} {ty : Ty}
    (h : b.sourceType property = .ok ty) (configuration : PropertyScope → Configuration ρ) :
    b.chosen (.defineWith property () configuration) =
      .ok (.defineWith property ty configuration) := by
  simp [chosen, h, Except.map]

/-- A definition that succeeds has done so on the builder behind, with the type that the property
has on the source. -/
theorem define_eq_ok {b left : SourceBuilder} {property : String} {handle : PropertyHandle}
    (h : define property b = .ok handle left) :
    ∃ ty behind, b.sourceType property = .ok ty ∧
      Builder.define property ty b.builder = .ok handle behind := by
  cases hty : b.sourceType property with
  | error e => simp [define, hty] at h
  | ok ty =>
    simp only [define, hty, onBuilder] at h
    cases hrun : Builder.define property ty b.builder with
    | error e behind => simp [hrun] at h
    | ok answered behind =>
      simp only [hrun, EStateM.Result.ok.injEq] at h
      exact ⟨ty, behind, rfl, h.1 ▸ hrun⟩

/-- Only a definition is refused by the source, since it lacks the property. -/
theorem exists_of_refused {b : SourceBuilder} {call : BuilderCall Unit ρ} {e : Error}
    (h : b.chosen call = .error e) : ∃ property, b.sourceType property = .error e ∧
      (call = .define property () ∨
        ∃ configuration, call = .defineWith property () configuration) := by
  cases call with
  | define property selection =>
    cases hty : b.sourceType property with
    | ok ty => simp [chosen_define hty] at h
    | error e' =>
      obtain rfl : e' = e := by simpa [chosen, hty, Except.map] using h
      exact ⟨property, hty, .inl rfl⟩
  | defineWith property selection configuration =>
    cases hty : b.sourceType property with
    | ok ty => simp [chosen_defineWith hty] at h
    | error e' =>
      obtain rfl : e' = e := by simpa [chosen, hty, Except.map] using h
      exact ⟨property, hty, .inr ⟨configuration, rfl⟩⟩
  | configure handle configuration => cases h
  | addAttribute a => cases h
  | build => cases h

/-- A call for a property that the source lacks fails. -/
theorem error?_of_refused {b : SourceBuilder} {call : BuilderCall Unit ρ} {e : Error}
    (h : b.chosen call = .error e) (r : Registry) : (reply (b, r) call).error? = some e := by
  obtain ⟨property, hty, rfl | ⟨configuration, rfl⟩⟩ := exists_of_refused h
  · simp [reply, define, hty, outcomeOf, BuilderReply.error?]
  · simp [reply, defineWith, hty, BuilderReply.error?]

/-- Which property the source lacks is all that the answer to such a call says. -/
theorem reply_of_refused {b b' : SourceBuilder} (hsource : b.source = b'.source)
    {call : BuilderCall Unit ρ} {e : Error} (h : b.chosen call = .error e) (r r' : Registry) :
    reply (b, r) call = reply (b', r') call := by
  obtain ⟨property, hty, hcall⟩ := exists_of_refused h
  have hty' : b'.sourceType property = .error e := by
    rw [← hty]
    simp only [sourceType, hsource]
  rcases hcall with rfl | ⟨configuration, rfl⟩
  · simp [reply, define, hty, hty', outcomeOf]
  · simp [reply, defineWith, hty, hty']

/-- A call that succeeds has been passed on. -/
theorem exists_chosen {b : SourceBuilder} {r : Registry} {call : BuilderCall Unit ρ}
    (h : (reply (b, r) call).error? = none) : ∃ behind, b.chosen call = .ok behind := by
  cases hchosen : b.chosen call with
  | ok behind => exact ⟨behind, rfl⟩
  | error e => simp [error?_of_refused hchosen] at h

/-- No call touches the source. -/
theorem source_next (b : SourceBuilder) (r : Registry) (call : BuilderCall Unit ρ) :
    (next (b, r) call).1.source = b.source := by
  cases hchosen : b.chosen call with
  | error e => rw [next_of_refused hchosen]
  | ok behind => rw [(eq_of_chosen hchosen r).2]

/-- Behind a run is the run of the calls that are passed on. -/
theorem builder_after (b : SourceBuilder) (calls : List (Registry × BuilderCall Unit ρ)) :
    (b.after calls).builder = b.builder.after (b.passedOn calls) := by
  induction calls generalizing b with
  | nil => rfl
  | cons first rest ih =>
    obtain ⟨r, call⟩ := first
    have hrest := ih (next (b, r) call).1
    have hpassed : (next (b, r) call).1.passedOn rest = b.passedOn rest := by
      simp only [passedOn, chosen_congr (source_next b r call)]
    rw [hpassed] at hrest
    have hfirst : (b.after ((r, call) :: rest)).builder =
        ((next (b, r) call).1.after rest).builder := rfl
    rw [hfirst, hrest]
    cases hchosen : b.chosen call with
    | error e => rw [next_of_refused hchosen, passedOn_of_refused hchosen]
    | ok behind =>
      rw [(eq_of_chosen hchosen r).2, passedOn_of_chosen hchosen]
      rfl

/-- A builder with a source is opened by opening the builder behind it. -/
theorem builder_of_start {r : Registry} {source : Class} {name container : Option String}
    {inherit : Bool} {b : SourceBuilder} (h : start r source name container inherit = .ok b) :
    b.source = source ∧ Builder.start r (name.getD source.name) container
      (if inherit then some source else none) = .ok b.builder := by
  cases hstart : Builder.start r (name.getD source.name) container
      (if inherit then some source else none) with
  | error e => simp [start, hstart, Except.map] at h
  | ok behind =>
    obtain rfl : ⟨source, behind⟩ = b := by simpa [start, hstart, Except.map] using h
    exact ⟨rfl, rfl⟩

end SourceBuilder

end ClassSynthesis
