import Outreach.Failure

set_option autoImplicit false

namespace Outreach

structure Site where
  host : Except Defect Unit
  complete : Bool

-- Reading addresses is left to the client that makes the requests.
class Client where
  locate : String → Except Defect Site

end Outreach
