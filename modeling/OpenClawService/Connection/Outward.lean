import OpenClawService.Adapters.Microsoft

/-! The clients of the token endpoints await nothing but the outside. A protocol
that such an await leaves where it is stays there through all of them. -/
namespace OpenClaw.Connection
open Interleaving
open Meets (Stays)

/-- Nothing that is awaited outside moves the protocol. -/
def Outward {L : Type} (P : Protocol Op Op.Answer L) (l : L) : Prop :=
  ∀ call : Outside, Stays P l (Async.outside call)

namespace Outward
variable {L : Type} {P : Protocol Op Op.Answer L} {l : L}

theorem http (outward : Outward P l) {request : HttpRequest} : Stays P l (Async.http request) :=
  .bind (outward _) fun _ => rfl

theorem revokeToken (outward : Outward P l) (settings : Settings) (token : TokenSet) :
    Stays P l (XeroOAuth.revokeToken settings token) :=
  .tryCatch (.bind outward.http fun _ => rfl) fun _ => rfl

variable [Library] {settings : Settings}

theorem exchangeCode (outward : Outward P l) (code : String) : Stays P l (XeroOAuth.exchangeCode settings code) := by
  refine .bind (outward _) fun answer => .bind rfl fun raw => .bind rfl fun accessToken => .bind ?_ fun tenant => ?_
  · refine .tryCatch (.bind outward.http fun response => ?_) fun _ => rfl
    split <;> rfl
  · refine .bind rfl fun stamp => ?_
    split
    · exact .bind rfl fun _ => .bind (outward _) fun _ => rfl
    · rfl

omit [Library] in
theorem startDeviceCodeFlow (outward : Outward P l) : Stays P l (MSDeviceCode.startDeviceCodeFlow settings) := by
  refine .bind outward.http fun response => ?_
  split <;> rfl

theorem pollDeviceCode (outward : Outward P l) (deviceCode : String) :
    Stays P l (MSDeviceCode.pollDeviceCode settings deviceCode) := by
  refine .bind outward.http fun response => .bind rfl fun body => ?_
  split
  · exact .bind (outward _) fun _ => rfl
  · exact .bind rfl fun _ => rfl

end Outward
end OpenClaw.Connection
