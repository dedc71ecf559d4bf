import Outreach.Step.Type

set_option autoImplicit false

namespace Outreach

inductive SpecialRule where
  | delayWindow
  deriving DecidableEq, Repr

def SpecialRule.name : SpecialRule → String
  | .delayWindow => "delay_window"

namespace StepType

def special : StepType → Option SpecialRule
  | .delay => some .delayWindow
  | _ => none

def required : StepType → List String
  | .linkedinMessage => ["message"]
  | .linkedinScrapeProfile => ["linkedinScrapeFields"]
  | .linkedinCompanySearch => ["linkedinCompanyName"]
  | .linkedinEmployeeList => ["linkedinCompanyUrl"]
  | .linkedinAutopost => ["linkedinPostContent"]
  | .linkedinCommentReply => ["linkedinCommentText"]
  | .emailSend | .emailFollowup => ["subject", "body"]
  | .whatsappSend => ["whatsappMessage"]
  | .voiceAgentCall => ["voiceAgentId"]
  | .instagramFollow | .instagramStoryView => ["instagramUsername"]
  | .instagramLike => ["instagramPostUrl"]
  | .instagramDm => ["instagramUsername", "instagramDmMessage"]
  | .instagramAutopost => ["instagramPostCaption", "instagramPostImageUrl"]
  | .instagramCommentReply => ["instagramCommentText"]
  | .leadGeneration => ["leadGenerationQuery", "leadGenerationLimit"]
  | .condition => ["conditionType"]
  | .linkedinVisit | .linkedinFollow | .linkedinConnect | .delay | .start | .finish => []

def optional : StepType → List String
  | .linkedinConnect => ["message"]
  | .linkedinAutopost => ["linkedinPostImageUrl"]
  | .whatsappSend => ["whatsappTemplate"]
  | .voiceAgentCall => ["voiceTemplate", "voiceContext"]
  | .instagramAutopost => ["instagramAutopostSchedule"]
  | _ => []

def notes : StepType → List String
  | .linkedinConnect =>
    ["connection-request messages are quota limited upstream; message is optional"]
  | .delay => ["at least one of delayDays / delayHours / delayMinutes must be > 0"]
  | .condition => ["branch evaluation happens in the execution runtime"]
  | _ => []

def alwaysValid (type : StepType) : Bool := type.required.isEmpty && type.special.isNone

end StepType

end Outreach
