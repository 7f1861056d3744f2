import OpenClawService.Connection.Request
import OpenClawService.Tenancy.Usable

/-! Every stored token has a tenant as long as every code exchange finds one:
refreshes carry it over, and requests only delete. -/
namespace OpenClaw.Tenancy
open Interleaving Connection

inductive Job where
  | callback (code state : String)
  | refresh (connectionId : String)
  | request (connectionId : String) (call : XeroHttp.Call)

section Jobs
variable [Library] {ι : Type} {settings : Settings} {connectionId : String}

def Job.run (settings : Settings) : Job → Async Unit
  | .callback code state => (fun _ => ()) <$> HandleXeroOAuthCallback.execute settings code state
  | .refresh connectionId => (fun _ => ()) <$> XeroTokenManager.getValidToken settings connectionId
  | .request connectionId call => (fun _ => ()) <$> XeroHttp.request settings connectionId call

/-- The request that looks for the tenant of a fresh token. -/
def lookup (accessToken : String) : HttpRequest :=
  { method := "GET", url := XeroOAuth.connectionsUrl, headers := [bearer accessToken] }

/-- A successful answer whose first connection names a tenant. -/
def Found : Except String HttpResponse → Prop
  | .ok response => response.isSuccess = true ∧ ∃ tenantId,
      (response.parse >>= XeroOAuth.tenantOf >>= Json.asOptionalText) = .ok (some tenantId) ∧ tenantId ≠ ""
  | .error _ => False

/-- Every lookup of a tenant finds one. -/
def Finds (env : Environment ι) : Prop :=
  ∀ w i accessToken answer, env.allows w i (.http (lookup accessToken)) answer → Found answer

omit [Library] in
def Tenanted (token : TokenSet) : Prop := ∃ tenantId, token.xeroTenantId = some tenantId ∧ tenantId ≠ ""

def admits : Op → Prop
  | .redis (.hset k mapping) => ∃ connectionId token, k = TokenStore.key connectionId ∧
      mapping = TokenStore.toMapping token ∧ Tenanted token
  | .redis (.hgetall k) => ∃ connectionId, k = TokenStore.key connectionId
  | _ => True

/-- What is loaded has a tenant, and so has what is looked up. -/
def expects : (op : Op) → op.Answer → Prop
  | .redis (.hgetall _), hash => ∀ token, TokenStore.decode hash = .ok (some token) → Tenanted token
  | .outside (.http request), answer => ∀ accessToken, request = lookup accessToken → Found answer
  | _, _ => True

def protocol : Protocol Op Op.Answer Unit := ⟨fun _ => admits, fun _ => expects, fun _ _ _ => ()⟩

omit [Library] in
theorem Tenanted.kept (tenanted : Tenanted token) : Tenanted (TokenStore.kept token) := by
  obtain ⟨tenantId, present, filled⟩ := tenanted
  exact ⟨tenantId, by simp [TokenStore.kept, present, orNone, filled], filled⟩

/-- The tokens that are trusted have a tenant. -/
def stance : Stance Unit := ⟨fun _ => True, fun _ => Tenanted, fun _ => True⟩

omit [Library] in
theorem stance_keeps : stance.Keeps l l' := ⟨trivial, id, id⟩

theorem keeper (settings : Settings) (connectionId : String) : Keeper protocol settings connectionId stance where
  plain := by
    intro l op _ plain
    refine ⟨?_, fun _ _ => stance_keeps⟩
    cases op with
    | redis command =>
      cases command with
      | hset | hgetall => exact plain.elim
      | _ => trivial
    | outside call => trivial
  load _ := ⟨⟨connectionId, rfl⟩, fun hash tenanted => ⟨stance_keeps, tenanted⟩⟩
  store _ tenanted := ⟨⟨_, _, rfl, rfl, tenanted⟩, fun _ _ => stance_keeps⟩
  refresh := by
    rintro l token refreshToken _ ⟨tenantId, present, filled⟩ _
    refine ⟨trivial, fun _ _ => ⟨stance_keeps, ?_, fun _ _ _ => trivial⟩⟩
    intro raw now renewed _ read
    have carried := (XeroOAuth.readTokenSet_fields read).2.2
    rw [Json.asOptionalText_ofText, present] at carried
    exact ⟨tenantId, (Except.ok.inj carried).symm, filled⟩

theorem pass {first : Bool} {call : XeroHttp.Call} :
    Pass protocol settings connectionId call first stance stance.inside (fun _ _ => True) where
  keeper := keeper settings connectionId
  ask _ _ _ := by
    refine ⟨trivial, fun answer _ => ?_⟩
    cases answer with
    | error text => trivial
    | ok response =>
      simp only [Settles]
      split
      · exact ⟨trivial, fun _ _ => trivial⟩
      · split
        · trivial
        · exact fun _ => trivial
  tenantless _ _ _ _ := trivial
  raised _ _ := trivial

open Meets (Stays)

theorem redis_stays {command : Command} (admitted : admits (.redis command)) : Stays protocol () (Async.redis command) :=
  ⟨admitted, fun _ _ => rfl⟩

theorem pop_stays (state : String) : Stays protocol () (OAuthStateStore.pop state) := by
  refine .bind (redis_stays trivial) fun _ => .bind (redis_stays trivial) fun value => ?_
  cases value with
  | none => exact .bind (redis_stays trivial) fun _ => rfl
  | some connectionId =>
    refine .bind (redis_stays trivial) fun deleted => ?_
    cases deleted <;> rfl

/-- A lookup that finds the tenant returns it. -/
theorem fetchTenantId_meets (accessToken : String) : Meets protocol (XeroOAuth.fetchTenantId accessToken) ()
    (fun result _ => ∃ tenant tenantId, result = .ok tenant ∧ tenant.asOptionalText = .ok (some tenantId) ∧ tenantId ≠ "") := by
  rw [XeroOAuth.fetchTenantId, Meets.tryCatch_iff, Meets.bind_iff, Async.http_meets]
  refine ⟨trivial, fun answer found => ?_⟩
  obtain found : Found answer := found accessToken rfl
  cases answer with
  | error text => exact found.elim
  | ok response =>
    obtain ⟨success, tenantId, read, filled⟩ := found
    obtain ⟨tenant, first, text⟩ := bind_ok read
    simp only [Except.mapError, Meets.andThen_ok, success, if_true, Async.ofExcept_meets, first, Meets.orElse_ok]
    exact ⟨tenant, tenantId, rfl, text, filled⟩

theorem exchangeCode_meets (code : String) : Meets protocol (XeroOAuth.exchangeCode settings code) ()
    (fun result _ => ∀ token, result = .ok token → Tenanted token) := by
  simp only [XeroOAuth.exchangeCode, Meets.bind_iff, Async.outside_meets, Meets.andThen_ok, Async.raising_meets]
  refine ⟨trivial, fun answer _ => ?_⟩
  cases answer with
  | error text =>
    intro token same
    cases same
  | ok raw =>
    simp only [Except.mapError, Meets.andThen_ok, Meets.bind_iff, Async.ofExcept_meets]
    cases raw.getItem "access_token" with
    | error exc =>
      intro token same
      cases same
    | ok accessToken =>
    rw [Meets.andThen_ok, Meets.bind_iff]
    apply (fetchTenantId_meets (Library.str accessToken)).mono
    rintro result l ⟨tenant, tenantId, rfl, text, filled⟩
    rw [Meets.andThen_ok]
    have issued (now : Int) (token : TokenSet) (read : XeroOAuth.readTokenSet raw tenant now = .ok token) : stance.trusted () token := by
      have carried := (XeroOAuth.readTokenSet_fields read).2.2
      rw [text] at carried
      exact ⟨tenantId, (Except.ok.inj carried).symm, filled⟩
    apply ((keeper settings "").rawToTokenSet_meets trivial issued).mono
    rintro result l yields token rfl
    exact yields.2

theorem callback_meets (code state : String) :
    Meets protocol (HandleXeroOAuthCallback.execute settings code state) () (fun _ _ => True) := by
  unfold HandleXeroOAuthCallback.execute
  rw [Meets.bind_iff]
  apply (pop_stays state).mono
  rintro (exc | popped) _ _
  · trivial
  · rw [Meets.andThen_ok]
    cases popped with
    | none => trivial
    | some connectionId =>
      simp only [Meets.bind_iff]
      apply (exchangeCode_meets code).mono
      rintro (exc | token) _ tenanted
      · trivial
      · exact ⟨⟨connectionId, token, rfl, rfl, tenanted token rfl⟩, fun _ _ => trivial⟩

theorem job_meets (job : Job) : Meets protocol (job.run settings) () (fun _ _ => True) := by
  cases job with
  | callback code state => exact Meets.map_iff.mpr (callback_meets code state)
  | refresh connectionId =>
    exact Meets.map_iff.mpr (((keeper settings connectionId).getValidToken_meets trivial).mono fun _ _ _ => trivial)
  | request connectionId call => exact Meets.map_iff.mpr (request_meets pass pass trivial)

section Runs
variable [DecidableEq ι] {jobs : ι → Job} {w w' : World ι} {i : ι} {op : Op} {answer : op.Answer} {env : Environment ι}

/-- Any number of callbacks, refreshes and requests. -/
def traffic (settings : Settings) (jobs : ι → Job) : ι → Prog Op Op.Answer (Except Exc Unit) :=
  fun i => ((jobs i).run settings).run

/-- Every stored token has a tenant. -/
def Settled (w : World ι) : Prop :=
  ∀ connectionId token, TokenStore.decode (w.redis.hashes (TokenStore.key connectionId)) = .ok (some token) → Tenanted token

theorem served (inv : Settled w) (finds : Finds env) (admitted : admits op) (served : Served env i w op answer w') :
    expects op answer ∧ Settled w' := by
  cases served with
  | @outside call answer allowed =>
    refine ⟨?_, inv⟩
    cases call with
    | http request =>
      rintro accessToken rfl
      exact finds w i accessToken answer allowed
    | _ => trivial
  | redis command =>
    refine ⟨?_, fun connectionId token decoded => ?_⟩
    · cases command with
      | hgetall k =>
        obtain ⟨connectionId, rfl⟩ := admitted
        exact inv connectionId
      | _ => trivial
    · rcases TokenStore.decode_exec decoded with stored | ⟨mapping, rfl, written⟩
      · exact inv connectionId token stored
      · obtain ⟨_, fresh, _, rfl, tenanted⟩ := admitted
        simp only [TokenStore.decode_merge, Except.ok.injEq, Option.some.injEq] at written
        exact written ▸ tenanted.kept

/-- Where every code exchange finds a tenant, every connection that is reported valid is usable. -/
theorem valid_usable {redis : Redis ι} {c : ServiceConfig ι (Except Exc Unit)} (finds : Finds env)
    (unconnected : ∀ connectionId, redis.hashes (TokenStore.key connectionId) = [])
    (run : Reaches (system env) ⟨⟨redis, []⟩, traffic settings jobs⟩ c) (connectionId : String) :
    Usable settings connectionId (c.shared.redis.hashes (TokenStore.key connectionId)) := by
  have initial : Settled (⟨redis, []⟩ : World ι) := by
    intro connectionId token decoded
    rw [unconnected connectionId] at decoded
    cases decoded
  have conforming : Conforming (fun _ => protocol) (fun w => view (fun _ => protocol) (fun _ => ()) w.log)
      (fun _ _ _ => True) (⟨⟨redis, []⟩, traffic settings jobs⟩ : ServiceConfig ι (Except Exc Unit)) := fun i => job_meets (jobs i)
  have reached := Conforming.run (I := Settled) (tracks env _ _) (fun c i op resume answer w inv _ _ _ admitted step =>
    served inv finds admitted step) (fun c w inv _ drifted => by cases drifted <;> exact inv) run initial conforming
  refine usable_iff.mpr fun token decoded => ?_
  obtain ⟨tenantId, present, _⟩ := reached.1 connectionId token decoded
  rw [present]
  rfl

end Runs
end Jobs

section Lookups
local instance : Library := .sample

/-- A callback, and a saved state for it. -/
def connecting : ServiceConfig Unit (Except Exc Unit) :=
  ⟨⟨{ Redis.empty with strings := fun key => if key = "oauth:state:state" then some "acme" else none }, []⟩,
    traffic .sample fun _ => .callback "code" "state"⟩

/-- The code is exchanged; Xero lists these connections. -/
def lists (statusCode : Nat) (connections : Json) : (call : Outside) → call.Answer
  | .fetchToken .. => .ok (.obj [("access_token", .str "a1"), ("refresh_token", .str "r1"), ("expires_at", .num 1 0)])
  | .http _ => .ok ⟨statusCode, "", some connections⟩
  | call => call.silence

def connected (statusCode : Nat) (connections : Json) : List (Move Unit) :=
  [.redis (), .redis (), .redis (), .outside () (lists statusCode connections), .outside () (lists statusCode connections), .redis ()]

/-- The environment in which every lookup finds a tenant. -/
def finding : Environment Unit where
  allows _ _ call answer := match call, answer with
    | .http _, answer => Found answer
    | _, _ => True
  expires _ _ := True
  changes _ _ _ := True

def oneConnection : Json := .arr [.obj [("tenantId", .str "tenant")]]

theorem valid_usable_connected :
    Usable .sample "acme" (((connected 200 oneConnection).foldl play connecting).shared.redis.hashes (TokenStore.key "acme")) := by
  have found : Found (.ok ⟨200, "", some oneConnection⟩) := ⟨rfl, "tenant", rfl, by decide⟩
  have finds : Finds finding := fun _ _ _ _ allowed => allowed
  refine valid_usable finds (fun _ => rfl) (plays_run ?_) "acme"
  exact ⟨trivial, trivial, trivial, ⟨trivial, trivial⟩, ⟨trivial, found⟩, trivial, trivial⟩

/-- The lookup fails, the callback stores its token all the same, and the connection is reported valid. -/
theorem valid_unusable : ∃ c, Reaches (system (.free Unit)) connecting c ∧ c.pool () = .done (.ok ()) ∧
    ¬ Usable .sample "acme" (c.shared.redis.hashes (TokenStore.key "acme")) := by
  refine ⟨(connected 503 .null).foldl play connecting, plays_run (free_legal ..), rfl, fun usable => ?_⟩
  have stored : TokenStore.decode (((connected 503 .null).foldl play connecting).shared.redis.hashes (TokenStore.key "acme")) =
      .ok (some ⟨"a1", 1000000, "Bearer", some "r1", none, none⟩) := rfl
  cases usable_iff.mp usable _ stored

end Lookups
end OpenClaw.Tenancy
