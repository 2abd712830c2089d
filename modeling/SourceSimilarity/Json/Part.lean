import SourceSimilarity.Json.Value

namespace SourceSimilarity.Json.Part

def asInt : Value → Int
  | .number (.whole n) => n
  | .number (.float x) => (Decimal.truncate? x).getD 0
  | .bool true => 1
  | _ => 0

def asNat (v : Value) : Nat := (asInt v).toNat

def asNumber : Value → Decimal.Number
  | .number n => n
  | .bool true => .whole 1
  | _ => .whole 0

def asFloat (v : Value) : Float := (asNumber v).toFloat

def asString : Value → String
  | .string s => s
  | _ => ""

def asList : Value → List Value
  | .array items => items
  | _ => []

def asBool : Value → Bool
  | .bool b => b
  | _ => false

def intList (v : Value) : List Int := (asList v).map asInt

def asInt? : Value → Option Int
  | .null => none
  | v => some (asInt v)

def field (name : String) (v : Value) : Value := (v.get? name).getD .null

def field? (name : String) (v : Value) : Option Value :=
  match v.get? name with
  | some .null => none
  | other => other

def str (name : String) (v : Value) : String := asString (field name v)

def items (name : String) (v : Value) : List Value := asList (field name v)

def int (name : String) (v : Value) : Int := asInt (field name v)

def nat (name : String) (v : Value) : Nat := asNat (field name v)

def nat? (name : String) (v : Value) : Option Nat := (field? name v).map asNat

def flag (name : String) (v : Value) : Bool := asBool (field name v)

def arg (index : Nat) (args : List Value) : Value := (args[index]?).getD .null

def strArg (index : Nat) (args : List Value) : String := asString (arg index args)

def intArg (index : Nat) (args : List Value) : Int := asInt (arg index args)

def natArg (index : Nat) (args : List Value) : Nat := asNat (arg index args)

end SourceSimilarity.Json.Part
