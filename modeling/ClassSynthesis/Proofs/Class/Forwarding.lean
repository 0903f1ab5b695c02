import ClassSynthesis.Proofs.Class.Subtyping

/-!
# Arguments that are passed on

A body may do nothing but call a constructor of the parent with the arguments that it was called
with. The constructor that is called may have a body of the same kind, and so on up to one that does
something else. Whatever that one does to the receiver, and however it fails, is what the first body
does, at any number of levels; what it returns is dropped.
-/

namespace ClassSynthesis

/-- A body of a class passes so many arguments on to a constructor of the class `base`. -/
inductive Code.PassesOn (count : Nat) (base : Class) (k : Constructor) : Class → Code → Prop
  /-- It calls that constructor, which is one of the parent. -/
  | directly {c : Class} (hparent : c.parent = some base) {target : Nat}
      (hk : base.constructors[target]? = some k) :
    PassesOn count base k c (forwarding target count)
  /-- It calls a constructor of the parent whose body passes them on in turn. -/
  | through {c parent : Class} (hparent : c.parent = some parent) {target : Nat}
      {relay : Constructor} (hrelay : parent.constructors[target]? = some relay)
      (h : PassesOn count base k parent relay.code) :
    PassesOn count base k c (forwarding target count)

namespace Class

variable {b t u : Class} {names : List String}

/-- Every constructor of a class at the end of a chain takes the parameters of the constructor of
the first class with the same number, and passes its arguments on to it. -/
theorem Chain.exists_passesOn (h : Chain b names t) (hu : u.BuiltOn (some t)) {target : Nat}
    {k : Constructor} (hk : b.constructors[target]? = some k) :
    ∃ relay, u.constructors[target]? = some relay ∧ relay.parameters = k.parameters ∧
      relay.code.PassesOn k.parameters.length b k u := by
  induction h generalizing u with
  | refl =>
    refine ⟨⟨k.parameters, Code.forwarding target k.parameters.length⟩, ?_, rfl, ?_⟩
    · rw [hu.getElem?_constructors, hk, Option.map_some]
    · exact .directly hu.parent_eq hk
  | build h ht ih =>
    obtain ⟨relay, hrelay, hparameters, hpasses⟩ := ih ht
    refine ⟨⟨k.parameters, Code.forwarding target k.parameters.length⟩, ?_, rfl, ?_⟩
    · rw [hu.getElem?_constructors, hrelay, Option.map_some, hparameters]
    · exact .through hu.parent_eq hrelay hpasses

end Class

/-- A body that passes its arguments on, at one level or through several, leaves the receiver as the
constructor at the top leaves it with the same arguments, also where that one stops half-way. It
fails if and as that one does, in the name of the class at the top, and else it returns nothing. -/
theorem execute_passesOn {count : Nat} {base c : Class} {k : Constructor} {code : Code}
    (h : code.PassesOn count base k c) {arguments : List Value} (hlength : arguments.length = count)
    (context : String) (i : Instance) :
    execute c.ancestors ⟨context, .exclusive, arguments⟩ code i =
      match execute base.ancestors ⟨constructorContext base.name, .exclusive, arguments⟩ k.code i
        with
      | .ok _ left => .ok none left
      | .error e left => .error e left := by
  subst hlength
  induction h generalizing context with
  | directly hparent hk => exact execute_forwarding hparent hk context arguments i
  | @through c parent hparent target relay hrelay h ih =>
    rw [execute_forwarding hparent hrelay, runConstructor, ih]
    cases execute base.ancestors ⟨constructorContext base.name, .exclusive, arguments⟩ k.code i
      <;> rfl

namespace Class

/-- The taxi is built on the car and the car on the vehicle, so it passes its arguments on to the
constructor of the vehicle, which stores the first one and then stops at a number that is to be a
label. -/
theorem execute_passesOn_taxi :
    (Code.forwarding 0 2).PassesOn 2 vehicle vehicle.constructors[0] taxi ∧
      execute taxi.ancestors ⟨"Taxi::.ctor", .exclusive, [.int 4, .int 5]⟩ (Code.forwarding 0 2)
          (.blank taxi) =
        .error (.typeMismatch "<Label>k__BackingField" "String" "Int64")
          ⟨taxi, [.int 4, .null, .int 0, .int 0]⟩ := by
  have hchain : Chain vehicle (car.own.properties.map (·.name)) car := .build .refl builtOn_car
  have hfirst : vehicle.constructors[0]? = some vehicle.constructors[0] := rfl
  obtain ⟨relay, hrelay, -, hpasses⟩ := hchain.exists_passesOn builtOn_taxi hfirst
  obtain rfl : taxi.constructors[0] = relay := Option.some.inj hrelay
  refine ⟨hpasses, ?_⟩
  exact execute_passesOn hpasses rfl "Taxi::.ctor" (.blank taxi)

end Class

end ClassSynthesis
