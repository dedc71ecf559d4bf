import Outreach.Settings.Basic
import Outreach.Text.Lines

set_option autoImplicit false

namespace Outreach.Settings

def shownHost (settings : Settings) : String :=
  if settings.host = "0.0.0.0" ∨ settings.host = "::" then "127.0.0.1" else settings.host

def address (settings : Settings) : String :=
  "http://" ++ settings.shownHost ++ ":" ++ toString settings.portNumber

def startMessages (settings : Settings) : List String :=
  ["[*] " ++ settings.appName ++ " v" ++ settings.appVersion ++ " 启动中...",
   "[ENV] 环境: " ++ settings.environment.name,
   "[CAMPAIGN] campaign 服务: " ++ settings.backend.name,
   "[URL] 服务地址: " ++ settings.address,
   "[DOCS] API 文档: " ++ settings.address ++ "/docs"]

def stopMessages (settings : Settings) : List String :=
  ["[SHUTDOWN] " ++ settings.appName ++ " 关闭中..."]

def lines (settings : Settings) : List String :=
  (settings.startMessages ++ settings.stopMessages).flatMap Text.printed

def health (settings : Settings) : Value :=
  .obj [("status", .str "healthy"), ("app_name", .str settings.appName),
    ("version", .str settings.appVersion), ("env", .str settings.environment.name)]

end Outreach.Settings
