import UncrownedKing.Lib.Threads
import UncrownedKing.Server.ReloadRequest

/-!
# Concurrent replacements of the security state

`SecurityState::replace` takes the next number with one atomic access and
publishes under it with another. Every call is a thread.
-/

namespace UncrownedKing.Server

open Lib Auth Mask Policy

variable {Acceptor : Type}

structure Replacement (Acceptor : Type) where
  tlsAcceptor : Acceptor
  credentials : List Credential
  maskKeys : List MaskKeys
  policySet : PolicySet
  authSkew : Duration

def Replacement.toGeneration (args : Replacement Acceptor) (generation : Nat) :
    CarrierGeneration Acceptor where
  generation := generation
  credentials := args.credentials
  maskKeys := args.maskKeys
  policySet := args.policySet
  authSkew := args.authSkew
  tlsAcceptor := args.tlsAcceptor

/-- `SecurityState`: a watch channel and an `AtomicU64`. -/
structure SharedSecurity (Acceptor : Type) where
  current : CarrierGeneration Acceptor
  nextGeneration : Nat

namespace SharedSecurity

def new (args : Replacement Acceptor) : SharedSecurity Acceptor where
  current := args.toGeneration initialGeneration
  nextGeneration := initialGeneration + 1

structure AuthenticationSnapshot (Acceptor : Type) where
  generation : Nat
  tlsAcceptor : Acceptor
  credentials : List Credential
  maskKeys : List MaskKeys
  authSkew : Duration

structure PolicySnapshot where
  generation : Nat
  policySet : PolicySet

def authenticationSnapshot (s : SharedSecurity Acceptor) : AuthenticationSnapshot Acceptor where
  generation := s.current.generation
  tlsAcceptor := s.current.tlsAcceptor
  credentials := s.current.credentials
  maskKeys := s.current.maskKeys
  authSkew := s.current.authSkew

def policySnapshot (s : SharedSecurity Acceptor) (identity : AuthenticatedIdentity)
    (now : UInt64) : Option PolicySnapshot := do
  let _ ← s.current.credentials.find? fun credential =>
    credential.keyId == identity.keyId && credential.policyGroup == identity.policyGroup &&
      credential.isActiveAt now
  some ⟨s.current.generation, s.current.policySet⟩

end SharedSecurity

inductive ReplacePc (Acceptor : Type)
  | idle
  | entered (args : Replacement Acceptor)
  | numbered (args : Replacement Acceptor) (generation : Nat)
  | returned (args : Replacement Acceptor) (generation : Nat)

namespace ReplacePc

def inProgress : ReplacePc Acceptor → Bool
  | .entered _ | .numbered _ _ => true
  | .idle | .returned _ _ => false

def assigned : ReplacePc Acceptor → Option Nat
  | .numbered _ generation | .returned _ generation => some generation
  | .idle | .entered _ => none

end ReplacePc

/-- A thread is called with arguments, or goes on by one access. -/
inductive ReplaceAct (Acceptor : Type)
  | call (args : Replacement Acceptor)
  | go

def replace (s : SharedSecurity Acceptor) (_ : Nat) :
    ReplacePc Acceptor → ReplaceAct Acceptor → SharedSecurity Acceptor × ReplacePc Acceptor
  | .idle, .call args => (s, .entered args)
  | .entered args, .go =>
    ({ s with nextGeneration := (s.nextGeneration + 1) % 2 ^ 64 },
      .numbered args s.nextGeneration)
  | .numbered args generation, .go =>
    ({ s with current := args.toGeneration generation }, .returned args generation)
  | pc, _ => (s, pc)

abbrev Replacing (Acceptor : Type) := Threads (SharedSecurity Acceptor) (ReplacePc Acceptor)

def Replacing.new (args : Replacement Acceptor) : Replacing Acceptor where
  shared := .new args
  pc _ := .idle

end UncrownedKing.Server
