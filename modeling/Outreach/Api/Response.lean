import Outreach.Api.View
import Outreach.Value.Wire

set_option autoImplicit false

namespace Outreach

namespace Failure

def report (code message : String) (errors : List Value) : Value :=
  .obj [("code", .str code), ("message", .str message), ("errors", .list errors)]

def status : Failure → Nat
  | .rejected .. => 422
  | .notFound .. => 404
  | .service .. => 502
  | .plain _ | .unknownNode _ | .invalidEdge _ | .invalid .. | .defect _ => 400

def detail : Failure → Value
  | .rejected kind message errors => report kind.code message errors
  | .invalid message code errors => report code message errors
  | .notFound entity id => .str (entity ++ " not found: " ++ id)
  | failure => .str failure.message

end Failure

inductive Response where
  | answer (status : Nat) (body : Value)
  | crash (cause : Defect)

namespace Response

variable [Limits]

def result (status : Nat) (body : Value) : Response :=
  let body := View.shown body
  if body.depth ≤ Limits.showDepth && body.encodable then .answer status body
  else .crash .unshowable

def detailOn (data : List Value) (status : Nat) (detail : Value) : Response :=
  match (Value.list (detail :: data)).unsendable? with
  | some defect => .crash defect
  | none => .answer status (.obj [("detail", detail)])

def detail (status : Nat) (detail : Value) : Response := detailOn [] status detail

def ofFailure : Failure → Response
  | .defect cause => .crash cause
  | failure => detail failure.status failure.detail

end Response

end Outreach
