import UncrownedKing.Lib.Bitmap
import UncrownedKing.Lib.Fifo

/-!
# The prelude replay registry

Per identity the highest committed counter and a bitmap over those below: bit
`d` stands for `highest - d`. Counters are naturals; no operation here can wrap.
-/

namespace UncrownedKing.Mask

open Lib

def replayWindow : Nat := 1024

inductive Replayed
  | zero
  | duplicate
  | belowWindow
  deriving DecidableEq, Repr

inductive ReplayDecision
  | accepted
  | rejected (why : Replayed)
  deriving DecidableEq, Repr

structure ReplayEntry where
  highest : Nat
  seen : Bitmap 64 16
  deriving DecidableEq, Repr

def ReplayEntry.fresh (counter : Nat) : ReplayEntry := ⟨counter, (Bitmap.empty 64 16).set 0⟩

def ReplayEntry.bitIsSet (entry : ReplayEntry) (distance : Nat) : Bool := entry.seen.test distance

def ReplayEntry.setBit (entry : ReplayEntry) (distance : Nat) : ReplayEntry :=
  { entry with seen := entry.seen.set distance }

/-- The loop reads bit `target + advance` and writes bit `target`. -/
def ReplayEntry.advance (entry : ReplayEntry) (advance : Nat) : ReplayEntry :=
  if advance ≥ replayWindow then { entry with seen := .empty 64 16 }
  else
    { entry with
      seen := (List.range replayWindow).foldl (fun shifted target =>
        if target + advance < replayWindow && entry.bitIsSet (target + advance) then
          shifted.set target
        else shifted) (.empty 64 16) }

def ReplayEntry.admits (entry : ReplayEntry) (counter : Nat) : ReplayDecision :=
  if counter = 0 then .rejected .zero
  else if counter > entry.highest then .accepted
  else
    let distance := entry.highest - counter
    if distance = 0 || (distance < replayWindow && entry.bitIsSet distance) then
      .rejected .duplicate
    else if distance < replayWindow then .accepted
    else .rejected .belowWindow

def ReplayEntry.commit (entry : ReplayEntry) (counter : Nat) : ReplayEntry :=
  if counter > entry.highest then
    ({ entry.advance (counter - entry.highest) with highest := counter }).setBit 0
  else entry.setBit (entry.highest - counter)

/-- `new` refuses a zero capacity. -/
structure ReplayRegistry where
  order : List UInt64
  entries : Table UInt64 ReplayEntry
  capacity : Nat
  capacity_pos : 0 < capacity

def ReplayRegistry.new (capacity : Nat) (h : 0 < capacity) : ReplayRegistry := ⟨[], ∅, capacity, h⟩

def ReplayRegistry.precheck (registry : ReplayRegistry) (identity : UInt64) (counter : Nat) :
    ReplayDecision :=
  match registry.entries.lookup identity with
  | some entry => entry.admits counter
  | none => if counter = 0 then .rejected .zero else .accepted

def ReplayRegistry.evictFront (registry : ReplayRegistry) : ReplayRegistry :=
  match registry.order with
  | [] => registry
  | evicted :: rest => { registry with order := rest, entries := registry.entries.erase evicted }

def ReplayRegistry.register (registry : ReplayRegistry) (identity : UInt64) (counter : Nat) :
    ReplayRegistry :=
  let registry :=
    if registry.entries.size = registry.capacity then registry.evictFront else registry
  { registry with
    order := registry.order ++ [identity]
    entries := registry.entries.insert identity (.fresh counter) }

def ReplayRegistry.commit (registry : ReplayRegistry) (identity : UInt64) (counter : Nat) :
    ReplayRegistry × ReplayDecision :=
  match registry.precheck identity counter with
  | .rejected why => (registry, .rejected why)
  | .accepted =>
    match registry.entries.lookup identity with
    | some entry =>
      ({ registry with entries := registry.entries.insert identity (entry.commit counter) },
        .accepted)
    | none => (registry.register identity counter, .accepted)

inductive RegistryCall
  | precheck (identity : UInt64) (counter : Nat)
  | commit (identity : UInt64) (counter : Nat)
  deriving DecidableEq, Repr

def ReplayRegistry.call (registry : ReplayRegistry) :
    RegistryCall → ReplayRegistry × ReplayDecision
  | .precheck identity counter => (registry, registry.precheck identity counter)
  | .commit identity counter => registry.commit identity counter

end UncrownedKing.Mask
