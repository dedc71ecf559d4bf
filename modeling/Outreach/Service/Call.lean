import Outreach.Value.Basic

set_option autoImplicit false

namespace Outreach

inductive Call where
  | create (payload : Value)
  | update (campaign : String) (updates : Value)
  | replaceSteps (campaign : String) (steps : Value)
  | get (campaign : String)

end Outreach
