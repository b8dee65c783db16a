import UncrownedKing.Lib.Threads
import UncrownedKing.Lib.Wire

/-!
# Keepalive

The keepalive task and the carrier reader meet in atomics only, so every access
to one is a step.
-/

namespace UncrownedKing.Client

open Lib

inductive KeepalivePong
  | matched (nonce : Nat)
  | invalidPayload
  | unexpected (nonce expectedNonce : Nat)
  deriving DecidableEq, Repr

inductive KeepaliveEvent
  /-- The nonce is the outstanding one from here on. -/
  | registered (nonce : Nat)
  | cleared (nonce : Nat)
  /-- A PONG arrives: it is compared with the outstanding nonce. -/
  | pong (payload : Bytes) (answer : KeepalivePong)
  | confirmed (nonce : Nat)
  | closed
  deriving DecidableEq

structure Keepalive where
  nextPingNonce : Nat := 0
  outstandingPingNonce : Nat := 0
  lastPongNonce : Nat := 0
  closed : Bool := false
  /-- How often `pong_notify` has woken its waiters. -/
  notifications : Nat := 0
  log : List KeepaliveEvent := []
  deriving DecidableEq

/-- The next access of a call to the shared state. -/
inductive KeepalivePoint
  | idle
  | loadNonce
  | exchangeNonce (current : Nat)
  | register (nonce : Nat)
  | writePing (nonce : Nat)
  | clearUnsent (nonce : Nat)
  | enlist (nonce : Nat)
  | checkClosed (nonce ticket : Nat)
  | observePong (nonce ticket : Nat)
  | notified (nonce ticket : Nat)
  /-- What the wait came to; `none` is the timeout. -/
  | clear (nonce : Nat) (result : Option Bool)
  | timedOut
  | close
  | storePong (nonce : Nat)
  | notifyWaiters
  | ended
  deriving DecidableEq, Repr

inductive KeepaliveChoice
  | proceed
  /-- The write fails, or the weak exchange does. -/
  | fail
  | timeout
  deriving DecidableEq, Repr

inductive KeepaliveInput
  | ping
  | pong (payload : Bytes)
  | close
  | go (choice : KeepaliveChoice)
  deriving DecidableEq

def keepaliveNoncePayload (nonce : Nat) : Bytes := toBe 8 nonce

def decodeKeepaliveNonce (payload : Bytes) : Option Nat :=
  if payload.length = 8 then some (fromBe payload) else none

namespace Keepalive

variable (s : Keepalive)

def emit (event : KeepaliveEvent) : Keepalive := { s with log := s.log ++ [event] }

def close : Keepalive :=
  if s.closed then s
  else { s with closed := true, notifications := s.notifications + 1 }.emit .closed

def exchangeNonce (current : Nat) (choice : KeepaliveChoice) : Keepalive × KeepalivePoint :=
  -- no nonce is left: the ping fails and the session is closed
  if current + 1 = 2 ^ 64 then (s, .close)
  else if s.nextPingNonce = current ∧ choice ≠ .fail then
    ({ s with nextPingNonce := current + 1 }, .register (current + 1))
  else (s, .exchangeNonce s.nextPingNonce)

def register (nonce : Nat) : Keepalive :=
  { s with outstandingPingNonce := nonce }.emit (.registered nonce)

def clearOutstandingPing (nonce : Nat) : Keepalive :=
  if s.outstandingPingNonce = nonce then
    { s with outstandingPingNonce := 0 }.emit (.cleared nonce)
  else s

def matchPong (payload : Bytes) : KeepalivePong :=
  match decodeKeepaliveNonce payload with
  | none => .invalidPayload
  | some nonce =>
    if s.outstandingPingNonce = 0 ∨ nonce ≠ s.outstandingPingNonce then
      .unexpected nonce s.outstandingPingNonce
    else .matched nonce

def recordPong (payload : Bytes) : Keepalive × KeepalivePoint :=
  let answer := s.matchPong payload
  (s.emit (.pong payload answer),
    match answer with
    | .matched nonce => .storePong nonce
    | _ => .idle)

def step (_task : Nat) (point : KeepalivePoint) (input : KeepaliveInput) :
    Keepalive × KeepalivePoint :=
  match point, input with
  | .idle, .ping => (s, if s.closed then .ended else .loadNonce)
  | .idle, .pong payload => s.recordPong payload
  | .idle, .close => (s, .close)
  | .loadNonce, .go _ => (s, .exchangeNonce s.nextPingNonce)
  | .exchangeNonce current, .go choice => s.exchangeNonce current choice
  | .register nonce, .go _ => (s.register nonce, .writePing nonce)
  | .writePing nonce, .go choice =>
    if s.closed ∨ choice = .fail then (s.close, .clearUnsent nonce) else (s, .enlist nonce)
  | .clearUnsent nonce, .go _ => (s.clearOutstandingPing nonce, .close)
  | .enlist nonce, .go _ => (s, .checkClosed nonce s.notifications)
  | .checkClosed nonce ticket, .go _ =>
    (s, if s.closed then .clear nonce (some false) else .observePong nonce ticket)
  | .observePong nonce ticket, .go _ =>
    if s.lastPongNonce = nonce then (s.emit (.confirmed nonce), .clear nonce (some true))
    else (s, .notified nonce ticket)
  | .notified nonce ticket, .go choice =>
    (s, if s.notifications ≠ ticket then .enlist nonce
        else if choice = .timeout then .clear nonce none
        else .notified nonce ticket)
  | .clear nonce result, .go _ =>
    (s.clearOutstandingPing nonce,
      match result with
      | some true => .idle
      | some false => .ended
      | none => .timedOut)
  | .timedOut, .go _ => (s, if s.closed then .ended else .close)
  | .close, .go _ => (s.close, .ended)
  | .storePong nonce, .go _ => ({ s with lastPongNonce := nonce }, .notifyWaiters)
  | .notifyWaiters, .go _ => ({ s with notifications := s.notifications + 1 }, .idle)
  | point, _ => (s, point)

end Keepalive

def keepaliveRun (acts : List (Nat × KeepaliveInput)) : Threads Keepalive KeepalivePoint :=
  Threads.run Keepalive.step ⟨{}, fun _ => .idle⟩ acts

end UncrownedKing.Client
