import UncrownedKing.Lib.Run
import UncrownedKing.Server.Dialer
import Mathlib.Logic.Function.Basic

/-!
# The dial loop, step by step

`connect_first_successful` with every point at which something else may happen:
dials end in any order, other dials take permits, the deadline passes, the
future is dropped.
-/

namespace UncrownedKing.Server

open Lib Net Proto

structure OpenDialLimiter where
  available : Nat
  elsewhere : Nat
  deriving DecidableEq, Repr

namespace OpenDialLimiter

def new (limit : Nat) : OpenDialLimiter := ⟨limit, 0⟩

def tryAcquire (limiter : OpenDialLimiter) : Option OpenDialLimiter :=
  match limiter.available with
  | 0 => none
  | available + 1 => some { limiter with available := available }

def give (limiter : OpenDialLimiter) (permits : Nat) : OpenDialLimiter :=
  { limiter with available := limiter.available + permits }

def lend (limiter : OpenDialLimiter) : OpenDialLimiter :=
  match limiter.tryAcquire with
  | none => limiter
  | some limiter => { limiter with elsewhere := limiter.elsewhere + 1 }

def reclaim (limiter : OpenDialLimiter) : OpenDialLimiter :=
  match limiter.elsewhere with
  | 0 => limiter
  | elsewhere + 1 => ⟨limiter.available + 1, elsewhere⟩

end OpenDialLimiter

inductive DialOutcome (T : Type)
  | finished (result : Except IoError T)
  | failed (message : String)
  deriving DecidableEq

def DialOutcome.error : DialOutcome T → Option IoError
  | .finished (.ok _) => none
  | .finished (.error err) => some err
  | .failed message => some ⟨.other, message⟩

/-- `abort` joins what is left of the tasks before it returns. -/
inductive DialPc (T : Type)
  | check
  | spawn
  | wait
  | abort (result : Except OpenFailure T)
  | returned (result : Except OpenFailure T)
  | dropped
  deriving DecidableEq

def DialPc.isExit : DialPc T → Bool
  | .returned _ | .dropped => true
  | _ => false

structure DialContext where
  addrs : List SocketAddr
  connector : TargetConnector
  deadline : Option Instant

structure DialMachine (T : Type) where
  dial : DialState
  ended : Nat → Option (DialOutcome T)
  limiter : OpenDialLimiter
  pc : DialPc T

def DialMachine.start (limiter : OpenDialLimiter) : DialMachine T :=
  ⟨.new, fun _ => none, limiter, .check⟩

/-- `go` is the loop where it does not wait, `join` an answer of the join set, `expire` the end of
the sleep; the rest is others'. -/
inductive DialAction (T : Type)
  | go (now : Instant)
  | join (id : Nat)
  | expire
  | drop
  | finish (id : Nat) (outcome : DialOutcome T)
  | lend
  | reclaim
  deriving DecidableEq

namespace DialMachine

/-- The task is out of the join set, and its permit dropped. -/
def take (s : DialMachine T) (id : Nat) : DialMachine T :=
  { s with
    dial := { s.dial with tasks := s.dial.tasks.join id }
    limiter := s.limiter.give (if id ∈ s.dial.tasks.permits then 1 else 0) }

def clear (s : DialMachine T) (pc : DialPc T) : DialMachine T :=
  { s with
    dial := s.dial.abort
    limiter := s.limiter.give s.dial.tasks.permits.length
    pc := pc }

def spawned (context : DialContext) (s : DialMachine T) : DialMachine T :=
  if s.dial.tasks.tasks.isEmpty then
    if s.dial.nextIndex < context.addrs.length then
      { s with pc := .returned (.error .resourceLimit) }
    else { s with pc := .returned (.error (unavailable s.dial.lastError)) }
  else { s with pc := .wait }

def spawnNext (context : DialContext) (s : DialMachine T) : DialMachine T :=
  match context.addrs[s.dial.nextIndex]? with
  | none => s.spawned context
  | some addr =>
    if s.dial.tasks.tasks.length < targetConnectParallelism then
      match s.limiter.tryAcquire with
      | none => s.spawned context
      | some limiter =>
        { s with
          dial := { s.dial with
            nextIndex := s.dial.nextIndex + 1
            tasks := s.dial.tasks.spawn s.dial.nextIndex
            log := s.dial.log ++ [context.connector addr] }
          limiter := limiter }
    else s.spawned context

def joined (s : DialMachine T) (outcome : DialOutcome T) : DialMachine T :=
  match outcome with
  | .finished (.ok stream) => { s with pc := .abort (.ok stream) }
  | outcome => { s with dial := { s.dial with lastError := outcome.error }, pc := .check }

def step (context : DialContext) (s : DialMachine T) (action : DialAction T) :
    DialMachine T × List (Nat × DialOutcome T) :=
  match action with
  | .go now =>
    match s.pc with
    | .check =>
      if context.deadline.any (· ≤ now) then ({ s with pc := .abort (.error .targetTimeout) }, [])
      else ({ s with pc := .spawn }, [])
    | .spawn => (s.spawnNext context, [])
    | .abort result =>
      if s.dial.tasks.tasks.isEmpty then (s.clear (.returned result), []) else (s, [])
    | _ => (s, [])
  | .join id =>
    match s.pc, s.ended id with
    | .wait, some outcome =>
      if id ∈ s.dial.tasks.tasks then ((s.take id).joined outcome, [(id, outcome)]) else (s, [])
    | .abort _, some outcome =>
      if id ∈ s.dial.tasks.tasks then (s.take id, [(id, outcome)]) else (s, [])
    | _, _ => (s, [])
  | .expire =>
    match s.pc with
    | .wait =>
      if context.deadline.isSome then ({ s with pc := .abort (.error .targetTimeout) }, [])
      else (s, [])
    | _ => (s, [])
  | .drop =>
    match s.pc with
    | .wait | .abort _ => (s.clear .dropped, [])
    | _ => (s, [])
  | .finish id outcome =>
    if id ∈ s.dial.tasks.tasks ∧ s.ended id = none then
      ({ s with ended := Function.update s.ended id (some outcome) }, [])
    else (s, [])
  | .lend => ({ s with limiter := s.limiter.lend }, [])
  | .reclaim => ({ s with limiter := s.limiter.reclaim }, [])

end DialMachine

end UncrownedKing.Server
