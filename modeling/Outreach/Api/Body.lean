import Outreach.Fault
import Outreach.Graph.Basic

set_option autoImplicit false

namespace Outreach

inductive RawBody where
  | absent
  | value (value : Value)
  | text (text : String)

inductive BodyFault where
  | invalid (faults : List Fault)
  | unparsable

namespace Form

structure OpenSession where
  name : String
  campaign : Option String

structure AddNode where
  type : StepType
  position : Option Position

structure InsertVariable where
  field : String
  name : String

structure Connect where
  source : String
  target : String

end Form

-- Bodies are read before anything else is looked at. What a body must look like is up to the
-- framework that reads it; a route only sees the form that comes out.
class Forms where
  openSession : RawBody → Except BodyFault Form.OpenSession
  rename : RawBody → Except BodyFault String
  addNode : RawBody → Except BodyFault Form.AddNode
  updateConfig : RawBody → Except BodyFault Fields
  position : RawBody → Except BodyFault Position
  insertVariable : RawBody → Except BodyFault Form.InsertVariable
  connect : RawBody → Except BodyFault Form.Connect
  select : RawBody → Except BodyFault (Option String)

end Outreach
