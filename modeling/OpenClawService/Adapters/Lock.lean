import OpenClawService.Service

/-! `RedisLockManager`: one non-blocking attempt on a lock key, and the release
by WATCH, GET and MULTI/DEL/EXEC, which runs however the body ends. -/
namespace OpenClaw.Lock

structure Context where
  ownerToken : String
  acquired : Bool

def aenter (key : String) (ttlSeconds : Nat) : Async Context := do
  let ownerToken ← Async.outside .uuid4
  let acquired ← Async.redis (.setNx key ownerToken ttlSeconds)
  return ⟨ownerToken, acquired⟩

/-- A WatchError at EXEC means that the key changed hands; it is passed over. -/
def aexit (key : String) (context : Context) : Async Unit := do
  if context.acquired then
    Async.redis (.watch key)
    let current ← Async.redis (.get key)
    if current = some context.ownerToken then
      let _ ← Async.redis (.execDel key)
      return ()
    else
      Async.redis .unwatch

/-- `async with lock_manager.acquire(key, ttl_seconds) as acquired: body`. -/
def acquire (key : String) (ttlSeconds : Nat) (body : Bool → Async α) : Async α := do
  let context ← aenter key ttlSeconds
  let outcome ← Async.outcome (body context.acquired)
  aexit key context
  Async.ofExcept outcome

end OpenClaw.Lock
