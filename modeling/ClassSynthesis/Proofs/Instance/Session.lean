import ClassSynthesis.Application

/-!
# Sessions with an instance

An instance is used through calls that read and write its members by name. Each call answers at
once, with a value if it reads one. What a call did to the slots before it failed stays done, so
the instance after a call is defined whether the call succeeds or not, and a session is any list
of calls. Instances come from the constructors of a class, directly or through an attribute.
-/

namespace ClassSynthesis

/-- What an effect leaves behind, whether it succeeds or fails. -/
def Effect.left {α : Type} (effect : Effect α) (i : Instance) : Instance :=
  match effect i with
  | .ok _ left => left
  | .error _ left => left

namespace Instance

/-- One call on an instance. -/
inductive Call where
  /-- Read a property. -/
  | get (name : String)
  /-- Read a field. -/
  | field (name : String)
  /-- Write a property. -/
  | set (name : String) (value : Value)
  /-- Write a property or a field. -/
  | setMember (name : String) (value : Value)

/-- The member that a call names. -/
def Call.member : Call → String
  | get name | field name | set name _ | setMember name _ => name

/-- What a call answers: a value if it reads one, nothing if it writes one, or an error. -/
abbrev Answer := Except Error (Option Value)

/-- The answer to a call. -/
def answer (i : Instance) : Call → Answer
  | .get name => (i.get name).map some
  | .field name => (i.field name).map some
  | .set name value => (Effect.outcome (set name value) i).map fun _ => none
  | .setMember name value => (Effect.outcome (setMember name value) i).map fun _ => none

/-- The instance after a call; reading leaves it as it is. -/
def next (i : Instance) : Call → Instance
  | .get _ | .field _ => i
  | .set name value => Effect.left (set name value) i
  | .setMember name value => Effect.left (setMember name value) i

/-- The instance after a session. -/
def after (i : Instance) (calls : List Call) : Instance := calls.foldl next i

/-- The calls of a session, each with its answer. -/
def transcript (i : Instance) : List Call → List (Call × Answer)
  | [] => []
  | call :: rest => (call, i.answer call) :: (i.next call).transcript rest

/-- An instance of a class as it comes from a constructor or from an attribute of that class. -/
inductive Created (c : Class) (i : Instance) : Prop
  /-- By the first constructor that accepts the arguments. -/
  | constructed (arguments : List Value) (h : create c arguments = .ok i)
  /-- By the constructor of this number, with overrides written afterwards. -/
  | instantiated (target : Nat) (arguments : List Value) (overrides : List (String × Value))
      (h : Attribute.instantiate ⟨c, target, arguments, overrides⟩ = .ok i)

end Instance

end ClassSynthesis
