import UncrownedKing.Lib.Run
import UncrownedKing.Lib.Table
import UncrownedKing.Server.Config

/-!
# The authentication rate limiter

Failures are counted per source, an IPv4 address or an IPv6 /64, in a window
that starts with the first of them; too many ban the source for a while. The
table is bounded. The clock is an input.
-/

namespace UncrownedKing.Server

open Lib Net Policy

/-- A network prefix is its first eight octets, as four segments. -/
inductive RateLimitKey
  | v4 (ip : Ipv4Addr)
  | v6Prefix (s0 s1 s2 s3 : UInt16)
  deriving DecidableEq, Repr

/-- `to_ipv4_mapped` is the strict form that `ipv4Mapped` recognises. -/
def RateLimitKey.fromIp : IpAddr → RateLimitKey
  | .v4 ip => .v4 ip
  | .v6 ip =>
    match ipv4Mapped ip with
    | some ip => .v4 ip
    | none => .v6Prefix ip.s0 ip.s1 ip.s2 ip.s3

structure IpFailureRecord where
  failures : Nat
  windowStart : Instant
  bannedUntil : Option Instant
  deriving DecidableEq, Repr

structure RateLimitState where
  entries : Table RateLimitKey IpFailureRecord
  lastPrune : Instant

structure AuthRateLimiter where
  config : AuthRateLimitConfig
  allowlist : List Cidr

def pruneInterval : Duration := fromSecs 10

def maxEntries : Nat := 65536

def evictionBatchSize : Nat := 128

namespace AuthRateLimitConfig

def window (config : AuthRateLimitConfig) : Duration := fromSecs config.windowSecs.toNat

def ban (config : AuthRateLimitConfig) : Duration := fromSecs config.banSecs.toNat

end AuthRateLimitConfig

namespace IpFailureRecord

def new (now : Instant) : IpFailureRecord := ⟨0, now, none⟩

/-- What a prune keeps: a ban that runs, or a window that does. -/
def live (config : AuthRateLimitConfig) (now : Instant) (record : IpFailureRecord) : Bool :=
  match record.bannedUntil with
  | some bannedUntil => now < bannedUntil
  | none => (Instant.checkedDurationSince now record.windowStart).any (· < config.window)

def renew (config : AuthRateLimitConfig) (now : Instant) (record : IpFailureRecord) :
    IpFailureRecord :=
  match record.bannedUntil with
  | some bannedUntil =>
    if now ≥ bannedUntil then { failures := 0, windowStart := now, bannedUntil := none } else record
  | none =>
    if (Instant.checkedDurationSince now record.windowStart).any (· ≥ config.window) then
      { record with failures := 0, windowStart := now }
    else record

def countFailure (record : IpFailureRecord) : IpFailureRecord :=
  { record with failures := min (record.failures + 1) (2 ^ 32 - 1) }

def fail (config : AuthRateLimitConfig) (now : Instant) (record : IpFailureRecord) :
    IpFailureRecord × Bool :=
  let record := (record.renew config now).countFailure
  if record.failures ≥ config.maxFailures.toNat then
    ({ record with bannedUntil := Instant.checkedAdd now config.ban }, true)
  else (record, false)

end IpFailureRecord

namespace RateLimitState

def new (now : Instant) : RateLimitState := ⟨∅, now⟩

def pruneDue (state : RateLimitState) (now : Instant) : Bool :=
  (state.entries.size > 1024 || state.entries.size ≥ maxEntries) &&
    now - state.lastPrune ≥ pruneInterval

def prune (config : AuthRateLimitConfig) (now : Instant) (state : RateLimitState) :
    RateLimitState :=
  if state.pruneDue now then
    { entries := state.entries.retain fun _ record => record.live config now, lastPrune := now }
  else state

def victims (order : Table.Order RateLimitKey IpFailureRecord) (state : RateLimitState) :
    List RateLimitKey :=
  ((order.keys state.entries).filter fun key =>
    (state.entries.lookup key).any (·.bannedUntil.isNone)).take evictionBatchSize

def Full (state : RateLimitState) (key : RateLimitKey) : Prop :=
  key ∉ state.entries ∧ state.entries.size ≥ maxEntries

instance (state : RateLimitState) (key : RateLimitKey) : Decidable (state.Full key) :=
  inferInstanceAs (Decidable (_ ∧ _))

def evict (order : Table.Order RateLimitKey IpFailureRecord) (key : RateLimitKey)
    (state : RateLimitState) : RateLimitState :=
  if state.Full key then { state with entries := state.entries.eraseAll (state.victims order) }
  else state

def put (key : RateLimitKey) (record : IpFailureRecord) (state : RateLimitState) :
    RateLimitState :=
  { state with entries := state.entries.insert key record }

end RateLimitState

namespace AuthRateLimiter

variable (limiter : AuthRateLimiter)

def isAllowlisted (ip : IpAddr) : Bool := limiter.allowlist.any (·.contains ip)

def check (ip : IpAddr) (now : Instant) (state : RateLimitState) : RateLimitState × Bool :=
  if limiter.isAllowlisted ip then (state, true)
  else if limiter.config.maxFailures = 0 then (state, true)
  else
    match state.entries.lookup (.fromIp ip) with
    | none => (state, true)
    | some record =>
      match record.bannedUntil with
      | none => (state, true)
      | some bannedUntil =>
        if now < bannedUntil then (state, false)
        else (state.put (.fromIp ip) (.new now), true)

def makeRoom (key : RateLimitKey) (now : Instant)
    (order : Table.Order RateLimitKey IpFailureRecord) (state : RateLimitState) :
    RateLimitState :=
  (state.prune limiter.config now).evict order key

/-- Whether the address is banned as a result. -/
def recordFailure (ip : IpAddr) (now : Instant)
    (order : Table.Order RateLimitKey IpFailureRecord) (state : RateLimitState) :
    RateLimitState × Bool :=
  if limiter.isAllowlisted ip then (state, false)
  else if limiter.config.maxFailures = 0 then (state, false)
  else
    let key := .fromIp ip
    let state := limiter.makeRoom key now order state
    if state.Full key then (state, false)
    else
      let record := (state.entries.lookup key).getD (.new now)
      let (record, banned) := record.fail limiter.config now
      (state.put key record, banned)

def recordSuccess (ip : IpAddr) (state : RateLimitState) : RateLimitState :=
  { state with entries := state.entries.erase (.fromIp ip) }

end AuthRateLimiter

inductive RateLimitCall
  | check (ip : IpAddr) (now : Instant)
  | recordFailure (ip : IpAddr) (now : Instant)
      (order : Table.Order RateLimitKey IpFailureRecord)
  | recordSuccess (ip : IpAddr)

def RateLimitCall.now? : RateLimitCall → Option Instant
  | .check _ now | .recordFailure _ now _ => some now
  | .recordSuccess _ => none

/-- One call. It reports its answer, if it has one. -/
def AuthRateLimiter.step (limiter : AuthRateLimiter) (state : RateLimitState) :
    RateLimitCall → RateLimitState × List Bool
  | .check ip now =>
    let (state, allowed) := limiter.check ip now state
    (state, [allowed])
  | .recordFailure ip now order =>
    let (state, banned) := limiter.recordFailure ip now order state
    (state, [banned])
  | .recordSuccess ip => (recordSuccess ip state, [])

def AuthRateLimiter.after (limiter : AuthRateLimiter) (created : Instant)
    (calls : List RateLimitCall) : RateLimitState :=
  (run limiter.step (.new created) calls).1

end UncrownedKing.Server
