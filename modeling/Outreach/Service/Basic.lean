import Outreach.Service.Remote
import Outreach.Service.Store

set_option autoImplicit false

namespace Outreach

inductive Service where
  | memory (store : Store)
  | remote (channel : Channel)

namespace Service

structure Outcome where
  answer : Except Failure Value
  service : Service
  supply : Supply

def call [Limits] [Client] (service : Service) (call : Call) (now : Nat) (supply : Supply) :
    Outcome :=
  match service with
  | .memory store =>
    let outcome := store.call call now supply
    { answer := outcome.answer, service := .memory outcome.store, supply := outcome.supply }
  | .remote channel =>
    let (answer, channel) := channel.call call
    { answer, service := .remote channel, supply }

def sent : Service → List Exchange
  | .memory _ => []
  | .remote channel => channel.sent

end Service

end Outreach
