import ClassSynthesis.Proofs.Registry.Log

/-!
# Drafts are realized once

A draft by itself, without a builder, lets its user set all that it shows, at any time. What it does
not show is the mark that it was realized. So the first realization succeeds whatever was set before,
and after it the draft refuses to be realized, extended or given attributes, whatever is set then.
The class that was registered is a value of its own and stays as it is.
-/

namespace ClassSynthesis

/-- One step in the use of a draft and of the registry that it belongs to. -/
inductive DraftStep where
  /-- Set everything that the draft shows to what another draft shows. -/
  | overwrite (shown : Draft)
  /-- Define a property. -/
  | define (name : String) (ty : Ty)
  /-- Attach an attribute. -/
  | attach (target : Target) (a : Application)
  /-- Realize the draft. -/
  | realize
  /-- Do something else in the registry. -/
  | elsewhere (call : RegistryCall)

/-- The step is to realize the draft. -/
def DraftStep.isRealize : DraftStep → Bool
  | .realize => true
  | _ => false

namespace Draft

/-- A draft that shows what another one shows. -/
def overwritten (d shown : Draft) : Draft :=
  { shown with registry := d.registry, slotPrefix := d.slotPrefix, isFrozen := d.isFrozen }

/-- A draft and its registry after one step. -/
def next : Draft × Registry → DraftStep → Draft × Registry
  | (d, r), .overwrite shown => (d.overwritten shown, r)
  | (d, r), .define name ty => (stateOf (define name ty d), r)
  | (d, r), .attach target a => (stateOf (attach target a d), r)
  | s, .realize => stateOf (realize s)
  | (d, r), .elsewhere call => (d, r.next call)

/-- A draft and its registry after a number of steps. -/
def after (s : Draft × Registry) (steps : List DraftStep) : Draft × Registry := steps.foldl next s

theorem after_append (s : Draft × Registry) (steps more : List DraftStep) :
    after s (steps ++ more) = after (after s steps) more := List.foldl_append

/-- A draft that is not frozen is realized, and is frozen then. -/
theorem realize_of_open {d : Draft} (h : d.isFrozen = false) (r : Registry) :
    realize (d, r) = .ok (d.compile r.allocate.1)
      ({ d with isFrozen := true }, r.allocate.2.register (d.compile r.allocate.1)) := by
  simp only [realize, h, Bool.false_eq_true, ite_false]

theorem realize_of_frozen {d : Draft} (h : d.isFrozen = true) (r : Registry) :
    realize (d, r) = .error (.frozen d.name) (d, r) := by
  simp only [realize, h, ite_true]

/-- What a draft is realized to is the draft, compiled. -/
theorem realize_eq_ok {d : Draft} {r : Registry} {c : Class}
    (h : outcomeOf (realize (d, r)) = .ok c) : c = d.compile r.allocate.1 := by
  cases hfrozen : d.isFrozen with
  | true =>
    rw [realize_of_frozen hfrozen] at h
    cases h
  | false =>
    rw [realize_of_open hfrozen] at h
    exact (Except.ok.inj h).symm

theorem define_of_frozen {d : Draft} (h : d.isFrozen = true) (name : String) (ty : Ty) :
    define name ty d = .error (.frozen d.name) d := by
  simp only [define, checkDefine, h, ite_true]

theorem attach_of_frozen {d : Draft} (h : d.isFrozen = true) (target : Target) (a : Application) :
    attach target a d = .error (.frozen d.name) d := by
  simp only [attach, checkAttach, h, ite_true]

/-- Of all steps only realization touches the mark. -/
theorem isFrozen_next (s : Draft × Registry) (step : DraftStep) :
    (next s step).1.isFrozen = (s.1.isFrozen || step.isRealize) := by
  obtain ⟨d, r⟩ := s
  cases step with
  | overwrite shown => exact (Bool.or_false _).symm
  | define name ty =>
    rw [next, define]
    cases d.checkDefine name <;> exact (Bool.or_false _).symm
  | attach target a =>
    rw [next, attach]
    cases d.checkAttach target a with
    | error e => exact (Bool.or_false _).symm
    | ok made => cases target <;> exact (Bool.or_false _).symm
  | realize =>
    rw [next]
    cases h : d.isFrozen with
    | false => rw [realize_of_open h]; rfl
    | true => rw [realize_of_frozen h]; exact h
  | elsewhere call => exact (Bool.or_false _).symm

/-- A draft is frozen if it was to be realized before. -/
theorem isFrozen_after (s : Draft × Registry) (steps : List DraftStep) :
    (after s steps).1.isFrozen = (s.1.isFrozen || steps.any (·.isRealize)) := by
  induction steps generalizing s with
  | nil => exact (Bool.or_false _).symm
  | cons step rest ih =>
    have hrest := ih (next s step)
    rwa [isFrozen_next, Bool.or_assoc] at hrest

/-- To the registry a step is one call or none. -/
theorem registry_next (s : Draft × Registry) (step : DraftStep) :
    ∃ calls, (next s step).2 = s.2.after calls := by
  obtain ⟨d, r⟩ := s
  cases step with
  | realize => exact ⟨[.realize d], rfl⟩
  | elsewhere call => exact ⟨[call], rfl⟩
  | overwrite shown => exact ⟨[], rfl⟩
  | define name ty => exact ⟨[], rfl⟩
  | attach target a => exact ⟨[], rfl⟩

theorem registry_after (s : Draft × Registry) (steps : List DraftStep) :
    ∃ calls, (after s steps).2 = s.2.after calls := by
  induction steps generalizing s with
  | nil => exact ⟨[], rfl⟩
  | cons step rest ih =>
    obtain ⟨first, hfirst⟩ := registry_next s step
    obtain ⟨calls, hcalls⟩ := ih (next s step)
    refine ⟨first ++ calls, ?_⟩
    rw [Registry.after_append, ← hfirst]
    exact hcalls

/-- The class that a draft was realized to is found by its number after all further steps. -/
theorem get?_after_realize {s : Draft × Registry} {log : List Class} (h : s.2.Refines log)
    {c : Class} (hc : outcomeOf (realize s) = .ok c) (more : List DraftStep) :
    (after s (.realize :: more)).2.get? c.key.id = some c := by
  obtain ⟨d, r⟩ := s
  have hnext := h.next (.realize d)
  have hanswer : r.answer (.realize d) = .ok c := hc
  rw [hanswer] at hnext
  obtain ⟨calls, hcalls⟩ := registry_after (next (d, r) .realize) more
  have hmore : (after (d, r) (.realize :: more)).2 = (r.next (.realize d)).after calls := hcalls
  rw [hmore]
  exact hnext.get?_after calls (List.mem_append_right _ (List.mem_singleton.mpr rfl))

/-- What a draft is like if it was to be realized before, and what it is like if it was not. -/
structure Lifecycle (s : Draft × Registry) (asked : Bool) : Prop where
  /-- It is frozen if it was to be realized. -/
  frozen : s.1.isFrozen = asked
  /-- As long as it is not frozen, it is realized when that is asked for. -/
  realizes : s.1.isFrozen = false → ∃ c, realize s =
    .ok c ({ s.1 with isFrozen := true }, s.2.allocate.2.register c)
  /-- Once it is frozen, nothing is done to it any more. -/
  refuses : s.1.isFrozen = true → realize s = .error (.frozen s.1.name) s ∧
    (∀ name ty, define name ty s.1 = .error (.frozen s.1.name) s.1) ∧
    ∀ target a, attach target a s.1 = .error (.frozen s.1.name) s.1

/-- A draft that was not frozen at first goes through this, whatever it is made to show. -/
theorem lifecycle_after {s : Draft × Registry} (h : s.1.isFrozen = false)
    (steps : List DraftStep) : Lifecycle (after s steps) (steps.any (·.isRealize)) where
  frozen := by rw [isFrozen_after, h, Bool.false_or]
  realizes := fun hopen => ⟨_, realize_of_open hopen (after s steps).2⟩
  refuses := fun hfrozen =>
    ⟨realize_of_frozen hfrozen _, define_of_frozen hfrozen, attach_of_frozen hfrozen⟩

end Draft

end ClassSynthesis
