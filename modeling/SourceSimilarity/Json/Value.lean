import SourceSimilarity.Decimal.Number

namespace SourceSimilarity.Json

open Decimal (Number)

/-- A JSON value. Numbers keep whether they were written as whole numbers. -/
inductive Value where
  | null
  | bool (b : Bool)
  | number (n : Number)
  | string (s : String)
  | array (items : List Value)
  | object (fields : List (String × Value))
deriving Repr, Inhabited

abbrev Value.whole (n : Int) : Value := .number (.whole n)

/-- Gives a name a value: in place where the name is known, else at the end. -/
def setField (name : String) (value : Value) : List (String × Value) → List (String × Value)
  | [] => [(name, value)]
  | (other, old) :: rest =>
    if other = name then (name, value) :: rest else (other, old) :: setField name value rest

def fieldsOf (written : List (String × Value)) : List (String × Value) :=
  written.foldl (fun fields field => setField field.1 field.2 fields) []

def Value.get? (name : String) : Value → Option Value
  | .object fields => fields.lookup name
  | _ => none

end SourceSimilarity.Json
