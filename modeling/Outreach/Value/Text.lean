import Outreach.Number.Shortest
import Outreach.Text.Quoted
import Outreach.Value.Basic

set_option autoImplicit false

namespace Outreach

def Key.quoted : Key → String
  | .text s => Text.quoted s
  | .null => "None"
  | .bool b => if b then "True" else "False"
  | .int n => toString n
  | .double d => d.text

namespace Value

mutual

def quoted : Value → String
  | .null => "None"
  | .bool true => "True"
  | .bool false => "False"
  | .int n => toString n
  | .double d => d.text
  | .str s => Text.quoted s
  | .list items => "[" ++ quotedItems items ++ "]"
  | .obj fields => "\x7b" ++ quotedFields fields ++ "\x7d"

def quotedItems : List Value → String
  | [] => ""
  | [item] => item.quoted
  | item :: rest => item.quoted ++ ", " ++ quotedItems rest

def quotedFields : Fields → String
  | [] => ""
  | [(key, value)] => key.quoted ++ ": " ++ value.quoted
  | (key, value) :: rest => key.quoted ++ ": " ++ value.quoted ++ ", " ++ quotedFields rest

end

end Value

end Outreach
