import ClassSynthesis.Draft

/-!
# Configuring a property

A configuration is what a caller does to one property: it applies attributes, one after the other,
sees after each whether it was attached, and may go on or give up on that. At its end it succeeds or
fails and reports something to its caller. It can do nothing else to the draft.
-/

namespace ClassSynthesis

/-- A property as a configuration finds it. -/
structure PropertyScope where
  /-- The handle of the property. -/
  handle : PropertyHandle
  /-- The name of the property. -/
  name : String
  deriving DecidableEq, Repr

/-- What a caller does to one property. -/
inductive Configuration (ρ : Type) where
  /-- End, with success or failure and a report. -/
  | finish (outcome : Except Error Unit) (report : ρ)
  /-- Apply an attribute and go on according to how that went. -/
  | attach (application : Application) (next : Except Error Unit → Configuration ρ)

/-- How a configuration ended. -/
structure Configured (ρ : Type) where
  /-- Whether the operation succeeded. -/
  outcome : Except Error Unit
  /-- The report of the configuration, none if it was not carried out. -/
  report : Option ρ

namespace Configuration

variable {ρ : Type}

/-- Carry out a configuration of one property of a draft. -/
def run (handle : PropertyHandle) : Configuration ρ → Draft → Configured ρ × Draft
  | finish outcome report, d => (⟨outcome, some report⟩, d)
  | attach application next, d =>
    match Draft.attach (.property handle) application d with
    | .ok () d => (next (.ok ())).run handle d
    | .error e d => (next (.error e)).run handle d

/-- Apply attributes up to the first failure. -/
def ofList : List Application → Configuration Unit
  | [] => finish (.ok ()) ()
  | application :: rest =>
    attach application fun
      | .ok () => ofList rest
      | .error e => finish (.error e) ()

end Configuration

end ClassSynthesis
