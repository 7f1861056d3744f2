import OpenClawService.Adapters.Microsoft

/-! What a caller of the API receives when a call raises: the error envelopes of
the application, and the statuses that the poll route has for its two exceptions. -/
namespace OpenClaw

/-- `{"error": error, "detail": str(exc)}`. -/
def errorBody (error detail : String) : Json := .obj [("error", .str error), ("detail", .str detail)]

/-- The exception handlers of the application; no other exception has an envelope. -/
def envelope : Exc → Option (Nat × Json)
  | .connectionMissingError text => some (404, errorBody "connection_missing" text)
  | .connectionExpiredError text => some (409, errorBody "connection_expired" text)
  | .providerUnavailableError text => some (502, errorBody "provider_unavailable" text)
  | .lockTimeoutError text => some (503, errorBody "lock_timeout" text)
  | _ => none

/-- The poll route answers these two with a status of its own. -/
def pollStatus : Exc → Option String
  | .deviceCodePending _ => some "pending"
  | .deviceCodeExpired _ => some "expired"
  | _ => none

end OpenClaw
