import OpenClawService.Budgets.Charges

/-! What a token costs: whichever manager is asked, and however often the lock is taken
by others, at most one refresh and half a second of waiting. -/
namespace OpenClaw
open Interleaving Async
variable [Library] (settings : Settings) (connectionId : String)

namespace XeroOAuth

theorem rawToTokenSet_spends (raw xeroTenantId : Json) : Spends (spend 0 0 0 0) (rawToTokenSet raw xeroTenantId) := by
  refine (ofExcept_spends _).bind fun stamp => ?_
  split
  · exact (ofExcept_spends _).bind fun _ => Spends.bind (outside_spends .now) fun _ => ofExcept_spends _
  · exact ofExcept_spends _

theorem refreshToken_spends (token : Option TokenSet) : Spends (spend 0 1 1 0) (refreshToken settings token) := by
  unfold refreshToken
  split
  · exact Costs.throw _
  · split
    · exact Costs.throw _
    · exact Spends.bind (outside_spends (.refreshToken ..)) fun _ => (ofExcept_spends _).bind fun _ => rawToTokenSet_spends _ _

end XeroOAuth

namespace XeroTokenManager

omit [Library] in
theorem usable_spends (token : Option TokenSet) : Spends (spend 0 0 0 0) (usable settings token) := by
  unfold usable
  split
  · exact Costs.pure _
  · refine Spends.bind (TokenSet.isExpiredOrNear_spends _ _) fun near => ?_
    split <;> exact Costs.pure _

theorem refreshHeld_spends : Spends (spend 2 1 1 0) (refreshHeld settings connectionId) := by
  have renewed (token : Option TokenSet) : Spends (spend 1 1 1 0) (refreshHeld.renew settings connectionId token) :=
    (XeroOAuth.refreshToken_spends settings token).bind fun _ => (redis_spends _ (by rfl)).bind fun _ => Costs.pure _
  refine (TokenStore.load_spends connectionId).bind fun token => ?_
  cases token with
  | none => exact renewed none
  | some current =>
    refine (TokenSet.isExpiredOrNear_spends _ _).bind fun near => ?_
    split
    · exact renewed _
    · exact Costs.pure _

/-- Every pass that finds the lock taken costs two commands and a sleep. -/
theorem refreshAttempts_spends (attempts : Nat) :
    Spends (spend (2 * attempts + 6) 1 1 (100 * attempts)) (refreshAttempts settings connectionId attempts) := by
  induction attempts with
  | zero => exact Costs.throw _
  | succ attempts ih =>
    have wait : Spends (spend 0 0 0 100) (Async.outside (.sleep contentionSleepMilliseconds)) := outside_spends _
    have pass : Spends (spend (2 * attempts + 8) 1 1 (100 * attempts + 100)) (refreshAttempts settings connectionId (attempts + 1)) := by
      rw [refreshAttempts]
      refine Lock.retry_spends (refreshHeld_spends settings connectionId) (fun _ => ?_) ?_ ?_ _ _
      · exact Costs.pure _
      · refine wait.bind fun _ => (TokenStore.load_spends connectionId).bind fun token => (usable_spends settings token).bind fun found => ?_
        cases found with
        | some token => exact Costs.pure _
        | none => exact ih.less (by omega) le_rfl le_rfl le_rfl
      · omega
    exact pass.less (by omega) le_rfl le_rfl le_rfl

theorem getValidToken_spends : Spends (spend 17 1 1 500) (getValidToken settings connectionId) := by
  refine (TokenStore.load_spends connectionId).bind fun token => ?_
  cases token with
  | none => exact Costs.throw _
  | some token =>
    refine (TokenSet.isExpiredOrNear_spends _ _).bind fun near => ?_
    split
    · exact refreshAttempts_spends settings connectionId contentionRetries
    · exact Costs.pure _

end XeroTokenManager

namespace MSDeviceCode

theorem parseTokenSet_spends (body : Json) : Spends (spend 0 0 0 0) (parseTokenSet body) :=
  Spends.bind (outside_spends .now) fun _ => Costs.ended _

theorem refreshToken_spends (token : TokenSet) : Spends (spend 0 1 1 0) (refreshToken settings token) := by
  unfold refreshToken
  split
  · exact Costs.throw _
  · rename_i refreshToken _
    have sent : Spends (spend 0 1 1 0) (Async.http (refreshRequest settings refreshToken)) := http_spends _
    refine sent.bind fun response => ?_
    split
    · exact (ofExcept_spends _).bind fun _ => (ofExcept_spends _).bind fun _ => Costs.throw _
    · exact (ofExcept_spends _).bind fun _ => parseTokenSet_spends _

end MSDeviceCode

namespace MSTokenManager

/-- What a forced refresh does not look up. -/
def looks (force : Bool) : Nat := if force then 0 else 1

theorem cachedToken_spends (force : Bool) : Spends (spend (looks force) 0 0 0) (cachedToken settings connectionId force) := by
  cases force with
  | true => exact Costs.pure _
  | false =>
    have looked : Spends (spend 1 0 0 0) (cachedToken settings connectionId false) :=
      (TokenStore.load_spends connectionId).bind fun token => XeroTokenManager.usable_spends settings token
    exact looked

theorem refreshHeld_spends (force : Bool) : Spends (spend (2 + looks force) 1 1 0) (refreshHeld settings connectionId force) := by
  refine (cachedToken_spends settings connectionId force).bind fun found => ?_
  cases found with
  | some cached => exact Costs.pure _
  | none =>
    refine (TokenStore.load_spends connectionId).bind fun token => ?_
    cases token with
    | none => exact Costs.throw _
    | some current =>
      exact (MSDeviceCode.refreshToken_spends settings current).bind fun _ => (redis_spends _ (by rfl)).bind fun _ => Costs.pure _

theorem refreshAttempts_spends (force : Bool) (attempts : Nat) :
    Spends (spend ((looks force + 1) * attempts + 7) 1 1 (100 * attempts)) (refreshAttempts settings connectionId force attempts) := by
  induction attempts with
  | zero => exact Costs.throw _
  | succ attempts ih =>
    have wait : Spends (spend 0 0 0 100) (Async.outside (.sleep contentionSleepMilliseconds)) := outside_spends _
    have pass : Spends (spend ((looks force + 1) * attempts + 7 + looks force + 1) 1 1 (100 * attempts + 100))
        (refreshAttempts settings connectionId force (attempts + 1)) := by
      rw [refreshAttempts]
      refine Lock.retry_spends (refreshHeld_spends settings connectionId force) (fun _ => ?_) ?_ ?_ _ _
      · exact Costs.pure _
      · refine wait.bind fun _ => (cachedToken_spends settings connectionId force).bind fun found => ?_
        cases found with
        | some token => exact Costs.pure _
        | none => exact ih.less le_rfl le_rfl le_rfl le_rfl
      · omega
    exact pass.less (by rw [Nat.mul_succ]; omega) le_rfl le_rfl le_rfl

/-- A forced refresh does not look whether another one was as good. -/
theorem getToken_spends (force : Bool) : Spends (spend (if force then 12 else 18) 1 1 500) (getToken settings connectionId force) := by
  cases force with
  | true => exact refreshAttempts_spends settings connectionId true contentionRetries
  | false =>
    show Spends (spend 18 1 1 500) _
    refine (TokenStore.load_spends connectionId).bind fun token => ?_
    cases token with
    | none => exact Costs.throw _
    | some cached =>
      refine (TokenSet.isExpiredOrNear_spends _ _).bind fun near => ?_
      split
      · exact refreshAttempts_spends settings connectionId false contentionRetries
      · exact Costs.pure _

end MSTokenManager
end OpenClaw
