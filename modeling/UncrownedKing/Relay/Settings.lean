import UncrownedKing.Relay.Machine

/-!
# The client's settings

A client may announce the limits of what it receives, once and before it opens a
flow. The session keeps only that they have come.
-/

namespace UncrownedKing.Relay

open Lib Net Proto Auth Server

def relayBufferSize : Nat := 16 * 1024

structure RelayLimitConfig where
  frame : FrameLimits
  maxStreams : Nat
  maxUdpFlows : Nat
  relayBufferSize : Option Nat
  maxBufferedBytesPerFlow : Nat
  tcpHalfCloseTimeout : Option Duration
  udpFlowIdleTimeout : Option Duration
  deriving DecidableEq, Repr

def tcpDataFrameSize (limits : FrameLimits) (bufferSize : Option Nat) : Nat :=
  min limits.maxFrameSize (bufferSize.getD relayBufferSize)

def RelayLimits.new (config : RelayLimitConfig) : RelayLimits where
  maxStreams := config.maxStreams
  maxUdpFlows := config.maxUdpFlows
  maxBufferedBytesPerFlow := config.maxBufferedBytesPerFlow
  dataFrameSize := tcpDataFrameSize config.frame config.relayBufferSize
  tcpHalfCloseTimeout := config.tcpHalfCloseTimeout
  udpFlowIdleTimeout := config.udpFlowIdleTimeout

inductive SessionEvent
  | settings (agreed : NegotiatedSettings)
  | relay (event : RelayEvent)

def SessionEvent.isSettings : SessionEvent → Bool
  | .settings _ => true
  | .relay _ => false

def SessionEvent.isOpened : SessionEvent → Bool
  | .relay (.opened _ _) => true
  | _ => false

def settingsOf (frame : Frame) : Option NegotiatedSettings :=
  match validateConnectionFrame frame .settings with
  | .error _ => none
  | .ok _ => (Settings.decode frame.payload >>= Settings.negotiated).toOption

def acceptedSettings (context : RelayContext) (env : HandlerEnv) (frame : Frame) (s : Session) :
    Option NegotiatedSettings :=
  if frame.header.frameType = .settings ∧ (handleSessionFrame context env frame s).2 = [] then
    settingsOf frame
  else none

def RelaySession.accepts (context : RelayContext) (r : RelaySession) (action : RelayAction) :
    Option NegotiatedSettings :=
  match r.loop, action with
  | .ready, .frame frame env => acceptedSettings context env frame r.session
  | _, _ => none

/-- A step with the settings it accepts. -/
def RelaySession.observe (context : RelayContext) (r : RelaySession) (action : RelayAction) :
    RelaySession × List SessionEvent :=
  let (next, events) := r.step context action
  (next, (r.accepts context action).toList.map .settings ++ events.map .relay)

end UncrownedKing.Relay
