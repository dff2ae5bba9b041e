/-
How a value is shown in the message about it: its kind, and its content in
brackets.
-/

import Sieve.Text.Quoted
import Sieve.Value.Basic

namespace Sieve.Value

mutual

/-- The value as messages show it. -/
def description : Value → List Char
  | .bool flag => "Bool(".toList ++ (toString flag).toList ++ [')']
  | .int number => "Int(".toList ++ Decimal.signed number.toInt ++ [')']
  | .float number => "Float(".toList ++ number.text .description ++ [')']
  | .str text => "Str(".toList ++ (Text.quoted text).toList ++ [')']
  | .list items => "List([".toList ++ descriptions items ++ [']', ')']
  | .date day => "Date(".toList ++ day.text ++ [')']
  | .datetime instant => "DateTime(".toList ++ instant.text ++ [')']
  | .formula text => "Formula(".toList ++ (Text.quoted text).toList ++ [')']

/-- The items of a list, with commas between. -/
def descriptions : List Value → List Char
  | [] => []
  | [item] => description item
  | item :: rest => description item ++ ',' :: ' ' :: descriptions rest

end

end Sieve.Value
