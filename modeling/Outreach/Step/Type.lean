import Outreach.Value.Obstacle

set_option autoImplicit false

namespace Outreach

inductive StepType where
  | linkedinVisit
  | linkedinFollow
  | linkedinConnect
  | linkedinMessage
  | linkedinScrapeProfile
  | linkedinCompanySearch
  | linkedinEmployeeList
  | linkedinAutopost
  | linkedinCommentReply
  | emailSend
  | emailFollowup
  | whatsappSend
  | voiceAgentCall
  | instagramFollow
  | instagramLike
  | instagramDm
  | instagramAutopost
  | instagramCommentReply
  | instagramStoryView
  | leadGeneration
  | delay
  | condition
  | start
  | finish
  deriving DecidableEq, Repr

namespace StepType

def all : List StepType :=
  [.linkedinVisit, .linkedinFollow, .linkedinConnect, .linkedinMessage, .linkedinScrapeProfile,
   .linkedinCompanySearch, .linkedinEmployeeList, .linkedinAutopost, .linkedinCommentReply,
   .emailSend, .emailFollowup, .whatsappSend, .voiceAgentCall, .instagramFollow, .instagramLike,
   .instagramDm, .instagramAutopost, .instagramCommentReply, .instagramStoryView, .leadGeneration,
   .delay, .condition, .start, .finish]

def name : StepType → String
  | .linkedinVisit => "linkedin_visit"
  | .linkedinFollow => "linkedin_follow"
  | .linkedinConnect => "linkedin_connect"
  | .linkedinMessage => "linkedin_message"
  | .linkedinScrapeProfile => "linkedin_scrape_profile"
  | .linkedinCompanySearch => "linkedin_company_search"
  | .linkedinEmployeeList => "linkedin_employee_list"
  | .linkedinAutopost => "linkedin_autopost"
  | .linkedinCommentReply => "linkedin_comment_reply"
  | .emailSend => "email_send"
  | .emailFollowup => "email_followup"
  | .whatsappSend => "whatsapp_send"
  | .voiceAgentCall => "voice_agent_call"
  | .instagramFollow => "instagram_follow"
  | .instagramLike => "instagram_like"
  | .instagramDm => "instagram_dm"
  | .instagramAutopost => "instagram_autopost"
  | .instagramCommentReply => "instagram_comment_reply"
  | .instagramStoryView => "instagram_story_view"
  | .leadGeneration => "lead_generation"
  | .delay => "delay"
  | .condition => "condition"
  | .start => "start"
  | .finish => "end"

def isSentinel : StepType → Bool
  | .start | .finish => true
  | _ => false

def ofName? (name : String) : Option StepType := all.find? (·.name == name)

def ofValue? (value : Value) : Option StepType := value.text?.bind ofName?

variable [Limits]

def named (value : Value) : Except Failure StepType :=
  match ofValue? value with
  | some type => .ok type
  | none => .error (Vocabulary.stepType.unknown value)

def notRegistered (value : Value) : Failure :=
  match value.text with
  | .ok name => .notFound Vocabulary.stepType.name name
  | .error defect => .defect defect

def find (value : Value) : Except Failure StepType :=
  match ofValue? value with
  | some type => .ok type
  | none => .error (notRegistered value)

end StepType

inductive Category where
  | linkedin
  | email
  | whatsapp
  | voice
  | instagram
  | leads
  | utility
  | start
  | finish
  deriving DecidableEq, Repr

namespace Category

def all : List Category :=
  [.linkedin, .email, .whatsapp, .voice, .instagram, .leads, .utility, .start, .finish]

def name : Category → String
  | .linkedin => "linkedin"
  | .email => "email"
  | .whatsapp => "whatsapp"
  | .voice => "voice"
  | .instagram => "instagram"
  | .leads => "leads"
  | .utility => "utility"
  | .start => "start"
  | .finish => "end"

def ofName? (name : String) : Option Category := all.find? (·.name == name)

def ofValue? (value : Value) : Option Category := value.text?.bind ofName?

def named [Limits] (value : Value) : Except Failure Category :=
  match ofValue? value with
  | some category => .ok category
  | none => .error (Vocabulary.category.unknown value)

end Category

inductive Condition where
  | connected
  | linkedinReplied
  | linkedinFollowed
  | opened
  | replied
  | clicked
  | whatsappDelivered
  | whatsappRead
  | whatsappReplied
  | voiceAnswered
  | voiceNotAnswered
  | voiceCompleted
  | voiceBusy
  | voiceFailed
  | instagramFollowed
  | instagramLiked
  | instagramReplied
  | instagramCommented
  | instagramStoryViewed
  deriving DecidableEq, Repr

namespace Condition

def all : List Condition :=
  [.connected, .linkedinReplied, .linkedinFollowed, .opened, .replied, .clicked,
   .whatsappDelivered, .whatsappRead, .whatsappReplied, .voiceAnswered, .voiceNotAnswered,
   .voiceCompleted, .voiceBusy, .voiceFailed, .instagramFollowed, .instagramLiked,
   .instagramReplied, .instagramCommented, .instagramStoryViewed]

def name : Condition → String
  | .connected => "connected"
  | .linkedinReplied => "linkedin_replied"
  | .linkedinFollowed => "linkedin_followed"
  | .opened => "opened"
  | .replied => "replied"
  | .clicked => "clicked"
  | .whatsappDelivered => "whatsapp_delivered"
  | .whatsappRead => "whatsapp_read"
  | .whatsappReplied => "whatsapp_replied"
  | .voiceAnswered => "voice_answered"
  | .voiceNotAnswered => "voice_not_answered"
  | .voiceCompleted => "voice_completed"
  | .voiceBusy => "voice_busy"
  | .voiceFailed => "voice_failed"
  | .instagramFollowed => "instagram_followed"
  | .instagramLiked => "instagram_liked"
  | .instagramReplied => "instagram_replied"
  | .instagramCommented => "instagram_commented"
  | .instagramStoryViewed => "instagram_story_viewed"

def byCategory : List (Category × List Condition) :=
  [(.linkedin, [.connected, .linkedinReplied, .linkedinFollowed]),
   (.email, [.replied, .opened, .clicked]),
   (.whatsapp, [.whatsappDelivered, .whatsappRead, .whatsappReplied]),
   (.voice, [.voiceAnswered, .voiceNotAnswered, .voiceCompleted, .voiceBusy, .voiceFailed]),
   (.instagram, [.instagramFollowed, .instagramLiked, .instagramReplied, .instagramCommented,
      .instagramStoryViewed])]

end Condition

inductive Status where
  | draft
  | running
  | paused
  | completed
  | stopped
  deriving DecidableEq, Repr

namespace Status

def all : List Status :=
  [.draft, .running, .paused, .completed, .stopped]

def name : Status → String
  | .draft => "draft"
  | .running => "running"
  | .paused => "paused"
  | .completed => "completed"
  | .stopped => "stopped"

end Status

end Outreach
