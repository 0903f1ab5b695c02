import ClassSynthesis.Class
import ClassSynthesis.Decimal.Positional
import ClassSynthesis.Text.Quoted

/-!
# Values

The type that a value has at run time, when a declared type accepts it, and how it is written out.
Two objects are equal only if they are one object; a number that is not a number equals nothing.
-/

namespace ClassSynthesis

namespace Value

/-- The name of a value's type in texts. -/
def typeName : Value → String
  | null => "Null"
  | bool _ => "Boolean"
  | int _ => "Int64"
  | float _ => "Double"
  | str _ => "String"
  | object _ of => of.cls.name

/-- The type of a value; the absent reference has none. -/
def ty? : Value → Option Ty
  | null => none
  | bool _ => some .bool
  | int _ => some .int
  | float _ => some .float
  | str _ => some .str
  | object _ of => some of.cls.ty

/-- The value is the absent reference. -/
def isNull : Value → Bool
  | null => true
  | _ => false

/-- The boolean that a value is. -/
def asBool? : Value → Option Bool
  | bool b => some b
  | _ => none

/-- The integer that a value is. -/
def asInt? : Value → Option Int64
  | int i => some i
  | _ => none

/-- The floating-point number that a value is. -/
def asFloat? : Value → Option Float
  | float x => some x
  | _ => none

/-- The text that a value is. -/
def asStr? : Value → Option String
  | str text => some text
  | _ => none

/-- The instance in an object. -/
def asObject? : Value → Option Instance
  | object _ of => some of
  | _ => none

/-- Values are equal by content, objects by identity. -/
def equals : Value → Value → Bool
  | null, null => true
  | bool a, bool b => a == b
  | int a, int b => a == b
  | float a, float b => a == b
  | str a, str b => a == b
  | object a _, object b _ => a == b
  | _, _ => false

instance : BEq Value := ⟨equals⟩

/-- A value written out: texts quoted, objects as their class in brackets. -/
def text : Value → String
  | null => "null"
  | bool b => if b then "true" else "false"
  | int i => toString i.toInt
  | float x => floatText x
  | str s => Text.quoted s
  | object _ of => s!"[{of.cls.name}]"

end Value

namespace Ty

/-- A member of this type may hold the value. -/
def accepts : Ty → Value → Bool
  | any, _ => true
  | ty, .null => ty.isReference
  | bool, .bool _ => true
  | int, .int _ => true
  | float, .float _ => true
  | str, .str _ => true
  | object cls, .object _ of => of.cls.derivesFrom cls.key
  | _, _ => false

/-- The value is of exactly this type, or absent where the type is one of references. -/
def matchesExactly (ty : Ty) (value : Value) : Bool :=
  match value.ty? with
  | some actual => ty.same actual
  | none => ty.isReference

/-- What a slot of this type holds before anything is stored. -/
def initial : Ty → Value
  | bool => .bool false
  | int => .int 0
  | float => .float 0.0
  | any | str | object _ => .null

/-- A slot accepts what it holds at first. -/
@[simp] theorem accepts_initial (ty : Ty) : ty.accepts ty.initial = true := by
  cases ty <;> rfl

/-- A value of exactly the declared type is accepted. -/
theorem accepts_of_matchesExactly {ty : Ty} {value : Value} (h : ty.matchesExactly value) :
    ty.accepts value := by
  cases value <;> cases ty <;>
    simp_all [matchesExactly, accepts, same, Value.ty?, isReference, Class.ty, Class.ref,
      Class.derivesFrom, Class.layers]

end Ty

namespace Constructor

/-- The types of the parameters. -/
def types (k : Constructor) : List Ty := k.parameters.map (·.ty)

/-- There is an argument for each parameter, and its type accepts it. -/
def accepts (k : Constructor) (arguments : List Value) : Bool :=
  k.parameters.length == arguments.length &&
    (k.parameters.zip arguments).all fun (p, value) => p.ty.accepts value

/-- There is an argument for each parameter, of exactly its type. -/
def matchesExactly (k : Constructor) (arguments : List Value) : Bool :=
  k.parameters.length == arguments.length &&
    (k.parameters.zip arguments).all fun (p, value) => p.ty.matchesExactly value

/-- Arguments that match exactly are accepted. -/
theorem accepts_of_matchesExactly {k : Constructor} {arguments : List Value}
    (h : k.matchesExactly arguments) : k.accepts arguments := by
  simp only [matchesExactly, accepts, Bool.and_eq_true, List.all_eq_true] at h ⊢
  exact ⟨h.1, fun pair hmem => Ty.accepts_of_matchesExactly (h.2 pair hmem)⟩

end Constructor

end ClassSynthesis
