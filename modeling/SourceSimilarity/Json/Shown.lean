import SourceSimilarity.Json.Value
import SourceSimilarity.Text.Quoted

namespace SourceSimilarity.Json

mutual

def Value.inspect : Value → String
  | .null => "None"
  | .bool true => "True"
  | .bool false => "False"
  | .number n => n.text Decimal.messageSpelling
  | .string s => Text.quoted s
  | .array items => "[" ++ inspectItems items ++ "]"
  | .object fields => "\x7b" ++ inspectFields fields ++ "\x7d"

def inspectItems : List Value → String
  | [] => ""
  | [item] => item.inspect
  | item :: items => item.inspect ++ ", " ++ inspectItems items

def inspectFields : List (String × Value) → String
  | [] => ""
  | [(name, item)] => Text.quoted name ++ ": " ++ item.inspect
  | (name, item) :: fields =>
    Text.quoted name ++ ": " ++ item.inspect ++ ", " ++ inspectFields fields

end

def Value.display : Value → String
  | .string s => s
  | v => v.inspect

end SourceSimilarity.Json
