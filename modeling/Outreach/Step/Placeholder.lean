import Outreach.Step.Type

set_option autoImplicit false

namespace Outreach.Placeholder

def format (name : String) : String := "\x7b\x7b" ++ name ++ "\x7d\x7d"

def insert (text : Option String) (name : String) : String :=
  text.getD "" ++ format name

def leadVariables : List String :=
  ["first_name", "last_name", "company_name", "title", "industry", "email", "phone"]

def table : List (Category × List String) :=
  [(.linkedin, leadVariables), (.email, leadVariables), (.whatsapp, leadVariables),
   (.voice, leadVariables), (.leads, leadVariables),
   (.instagram, leadVariables ++ ["instagram_username"]),
   (.utility, []), (.start, []), (.finish, [])]

def names (category : Category) : List String := (table.lookup category).getD []

end Outreach.Placeholder
