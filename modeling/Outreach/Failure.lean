import Outreach.Value.Text

set_option autoImplicit false

namespace Outreach

inductive Vocabulary where
  | stepType
  | category
  | rejectionKind
  deriving DecidableEq, Repr

def Vocabulary.name : Vocabulary → String
  | .stepType => "StepType"
  | .category => "StepCategory"
  | .rejectionKind => "CompileErrorKind"

inductive Defect where
  | unknownName (vocabulary : Vocabulary) (value : Value)
  | numeralTooLong
  | unsendable
  | unencodable
  | undecodable
  | tooDeep
  | unshowable
  | tooLarge
  | malformedAddress
  | malformedHost
  | hostCharacter
  | hostContext
  | hostDirection
  | relativeAddress
  | notPairs
  | notCollection
  | unusableKey
  | unordered
  | notObject

inductive RejectionKind where
  | empty
  | notValid
  | disconnected
  deriving DecidableEq, Repr

namespace RejectionKind

def all : List RejectionKind := [.empty, .notValid, .disconnected]

def name : RejectionKind → String
  | .empty => "empty"
  | .notValid => "not_valid"
  | .disconnected => "disconnected"

def code (kind : RejectionKind) : String := "compile_" ++ kind.name

def ofValue? (value : Value) : Option RejectionKind :=
  value.text?.bind fun name => all.find? (·.name == name)

end RejectionKind

inductive Failure where
  | plain (message : String)
  | notFound (entity id : String)
  | unknownNode (id : String)
  | invalidEdge (message : String)
  | invalid (message code : String) (errors : List Value)
  | rejected (kind : RejectionKind) (message : String) (errors : List Value)
  | service (message : String) (status : Option Int)
  | defect (cause : Defect)

namespace Failure

def message? : Failure → Option String
  | .plain message | .invalidEdge message | .invalid message .. | .rejected _ message _
  | .service message _ => some message
  | .notFound entity id => some (entity ++ " 不存在: " ++ id)
  | .unknownNode id => some ("节点不存在: " ++ id)
  | .defect (.unknownName vocabulary value) =>
    some (value.quoted ++ " is not a valid " ++ vocabulary.name)
  | .defect _ => none

def message (failure : Failure) : String := failure.message?.getD ""

def validationCode : String := "validation_error"

end Failure

end Outreach
