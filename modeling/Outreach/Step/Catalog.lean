import Outreach.Step.Placeholder

set_option autoImplicit false

namespace Outreach

structure Definition where
  type : StepType
  label : String
  icon : String
  description : String
  category : Category
  defaults : Fields
  textFields : List String
  advisory : Option String

namespace Catalog

def define (type : StepType) (category : Category) (icon label description : String)
    (defaults : Fields) (textFields : List String) : Definition :=
  { type, label, icon, description, category, defaults, textFields, advisory := none }

def connectAdvisory : String :=
  "LinkedIn limits connection-request messages to 4-5 per month for normal accounts; " ++
    "the message is optional."

def greeting : String := "Hi " ++ Placeholder.format "first_name" ++ ",..."

def definitions : List Definition :=
  [ define .linkedinVisit .linkedin "linkedin" "Profile Visit" "Visit the lead's LinkedIn profile"
      [("title", .str "LinkedIn Profile Visit")] [],
    define .linkedinFollow .linkedin "linkedin" "Follow" "Follow the lead on LinkedIn"
      [("title", .str "LinkedIn Follow")] [],
    { define .linkedinConnect .linkedin "linkedin" "Connection Request"
      "Send a connection request with message"
      [("title", .str "LinkedIn Connection Request"),
       ("message", .str ("Hi " ++ Placeholder.format "first_name" ++ ", I'd like to connect."))]
      ["message"] with
      advisory := some connectAdvisory },
    define .linkedinMessage .linkedin "linkedin" "LinkedIn Message"
      "Send a message (only if connected)"
      [("title", .str "LinkedIn Message"), ("message", .str greeting)] ["message"],
    define .linkedinScrapeProfile .linkedin "linkedin" "Scrape Profile"
      "Scrape LinkedIn profile data"
      [("title", .str "Scrape LinkedIn Profile"),
       ("linkedinScrapeFields", .strings ["name", "title", "company", "location"])] [],
    define .linkedinCompanySearch .linkedin "linkedin" "Company Search"
      "Search for company on LinkedIn"
      [("title", .str "LinkedIn Company Search"),
       ("linkedinCompanyName", .str (Placeholder.format "company_name"))] ["linkedinCompanyName"],
    define .linkedinEmployeeList .linkedin "linkedin" "Get Employee List"
      "Get list of employees from company"
      [("title", .str "Get Employee List"), ("linkedinCompanyUrl", .str "")] [],
    define .linkedinAutopost .linkedin "linkedin" "Auto Post"
      "Automatically post content to LinkedIn"
      [("title", .str "LinkedIn Auto Post"), ("linkedinPostContent", .str ""),
       ("linkedinPostImageUrl", .str "")] ["linkedinPostContent"],
    define .linkedinCommentReply .linkedin "linkedin" "Reply to Comment"
      "Automatically reply to comments on posts"
      [("title", .str "Reply to LinkedIn Comment"),
       ("linkedinCommentText", .str "Thanks for your comment!")] ["linkedinCommentText"],
    define .emailSend .email "email" "Send Email" "Send an email to the lead"
      [("title", .str "Send Email"),
       ("subject", .str ("Re: " ++ Placeholder.format "company_name")), ("body", .str greeting)]
      ["subject", "body"],
    define .emailFollowup .email "email" "Email Follow-up" "Send a follow-up email"
      [("title", .str "Email Follow-up"),
       ("subject", .str ("Re: " ++ Placeholder.format "company_name")), ("body", .str greeting)]
      ["subject", "body"],
    define .whatsappSend .whatsapp "whatsapp" "Send WhatsApp" "Send a WhatsApp message"
      [("title", .str "Send WhatsApp"), ("whatsappMessage", .str greeting),
       ("whatsappTemplate", .str "")] ["whatsappMessage"],
    define .voiceAgentCall .voice "voice" "Voice Agent Call" "Make a call using voice agent"
      [("title", .str "Voice Agent Call"), ("voiceAgentId", .str ""), ("voiceTemplate", .str ""),
       ("voiceContext", .str "")] ["voiceContext"],
    define .instagramFollow .instagram "instagram" "Follow" "Follow the lead on Instagram"
      [("title", .str "Instagram Follow"),
       ("instagramUsername", .str (Placeholder.format "instagram_username"))]
      ["instagramUsername"],
    define .instagramLike .instagram "instagram" "Like Post" "Like a specific Instagram post"
      [("title", .str "Instagram Like"), ("instagramPostUrl", .str "")] [],
    define .instagramDm .instagram "instagram" "Send DM" "Send a direct message on Instagram"
      [("title", .str "Instagram DM"),
       ("instagramUsername", .str (Placeholder.format "instagram_username")),
       ("instagramDmMessage", .str greeting)] ["instagramUsername", "instagramDmMessage"],
    define .instagramAutopost .instagram "instagram" "Auto Post"
      "Automatically post content to Instagram"
      [("title", .str "Instagram Auto Post"), ("instagramPostCaption", .str ""),
       ("instagramPostImageUrl", .str ""), ("instagramAutopostSchedule", .str "daily")]
      ["instagramPostCaption"],
    define .instagramCommentReply .instagram "instagram" "Reply to Comment"
      "Automatically reply to comments on posts"
      [("title", .str "Reply to Instagram Comment"),
       ("instagramCommentText", .str "Thanks for your comment!")] ["instagramCommentText"],
    define .instagramStoryView .instagram "instagram" "View Story" "View Instagram story"
      [("title", .str "View Instagram Story"),
       ("instagramUsername", .str (Placeholder.format "instagram_username"))]
      ["instagramUsername"],
    define .delay .utility "delay" "Delay" "Wait for specified time"
      [("title", .str "Delay"), ("delayDays", .int 0), ("delayHours", .int 0),
       ("delayMinutes", .int 0)] [],
    define .leadGeneration .leads "leads" "Lead Generation" "Generate leads from data source"
      [("title", .str "Lead Generation"), ("leadGenerationQuery", .str ""),
       ("leadGenerationLimit", .int 50)] ["leadGenerationQuery"],
    define .condition .utility "condition" "Condition" "Check condition (if connected/replied)"
      [("title", .str "Condition"), ("conditionType", .str "connected")] [],
    define .start .start "start" "Start" "Campaign entry point"
      [("title", .str "Start")] [],
    define .finish .finish "end" "End" "Campaign exit point"
      [("title", .str "End")] [] ]

def find? (type : StepType) : Option Definition := definitions.find? (·.type == type)

def inCategory (category : Category) : List Definition :=
  definitions.filter (·.category == category)

def palette : List Category :=
  [.leads, .linkedin, .email, .whatsapp, .voice, .instagram, .utility]

theorem find?_isSome (type : StepType) : (find? type).isSome := by
  cases type <;> decide

def definition (type : StepType) : Definition := (find? type).get (find?_isSome type)

def label (type : StepType) : String := (definition type).label

def placeholders (type : StepType) : List String := Placeholder.names (definition type).category

end Catalog

def Definition.fields (d : Definition) : Fields :=
  let shown : Fields :=
    [("type", .str d.type.name), ("label", .str d.label), ("icon", .str d.icon),
     ("description", .str d.description), ("category", .str d.category.name),
     ("defaultData", .obj d.defaults), ("textFields", .strings d.textFields)]
  match d.advisory with
  | some advisory => shown.set "advisory" (.str advisory)
  | none => shown

end Outreach
