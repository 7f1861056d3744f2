import OpenClawService.Adapters.Xero

/-! `OpenClawWebhookClient`: the resume message of a decision. Every failure
becomes a short text, so the call never raises. -/
namespace OpenClaw.Webhook
variable (settings : Settings)

/-- `webhook_base_url.rstrip("/")` with the path of the hook. -/
def url : String :=
  String.ofList (settings.openclawWebhookUrl.toList.rdropWhile (· == '/')) ++ "/hooks/agent"

/-- A note asks the agent to read its instructions first. -/
def skillPostamble (note : Option String) : String :=
  if (note.bind orNone).isSome then
    "\n\nBefore anything else, read the file `/home/ao/.openclaw/skills/m365-xero/SKILL.md` in full."
  else ""

def resumeMessage (approval : ApprovalRequest) (decision : String) (note : Option String) : String :=
  "🔁 Resume invoice from hook\n" ++
  "approvalId=" ++ approval.approvalId ++ "\n" ++
  "invoiceCaseId=" ++ approval.invoiceCaseId ++ "\n" ++
  "pdf_path=" ++ approval.pdfPath ++ "\n" ++
  "action=" ++ decision ++ "\n" ++
  "note=" ++ orAbsent note ++ skillPostamble note

def payload (approval : ApprovalRequest) (decision : String) (note : Option String) : Json :=
  .obj [("agentId", .str "main"),
    ("sessionKey", .str ("hook:invoice:" ++ approval.invoiceCaseId)),
    ("message", .str (resumeMessage approval decision note)),
    ("name", .str "Invoice approval callback"), ("wakeMode", .str "now"),
    ("deliver", .bool false), ("timeoutSeconds", .num 120 0)]

def notification (approval : ApprovalRequest) (decision : String) (note : Option String) : HttpRequest :=
  { method := "POST", url := url settings
    headers := [bearer settings.hookToken, ("Content-Type", "application/json")]
    json := some (payload approval decision note) }

/-- `raise_for_status` raises for every status outside 2xx. -/
def webhookResult : Except String HttpResponse → String
  | .ok response => if response.isSuccess then "ok" else "HTTP " ++ toString response.statusCode
  | .error text => "error: " ++ text

def notifyDecision (approval : ApprovalRequest) (decision : String) (note : Option String) : Async String := do
  return webhookResult (← Async.outside (.http (notification settings approval decision note)))

end OpenClaw.Webhook
