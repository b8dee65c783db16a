import Mathlib.Data.UInt

/-!
# Socket addresses and I/O errors

The part of `std::net` that the code reads. An I/O error is its kind and its
text.
-/

namespace UncrownedKing.Net

structure Ipv4Addr where
  new ::
  o0 : UInt8
  o1 : UInt8
  o2 : UInt8
  o3 : UInt8
  deriving DecidableEq, Repr

structure Ipv6Addr where
  new ::
  s0 : UInt16
  s1 : UInt16
  s2 : UInt16
  s3 : UInt16
  s4 : UInt16
  s5 : UInt16
  s6 : UInt16
  s7 : UInt16
  deriving DecidableEq, Repr

inductive IpAddr
  | v4 (ip : Ipv4Addr)
  | v6 (ip : Ipv6Addr)
  deriving DecidableEq, Repr

inductive SocketAddr
  | v4 (ip : Ipv4Addr) (port : UInt16)
  | v6 (ip : Ipv6Addr) (port : UInt16) (flowinfo scopeId : UInt32)
  deriving DecidableEq, Repr

def SocketAddr.ip : SocketAddr → IpAddr
  | .v4 ip _ => .v4 ip
  | .v6 ip _ _ _ => .v6 ip

def SocketAddr.port : SocketAddr → UInt16
  | .v4 _ port => port
  | .v6 _ port _ _ => port

/-- A v6 address gets no flow label and no scope. -/
def SocketAddr.new : IpAddr → UInt16 → SocketAddr
  | .v4 ip, port => .v4 ip port
  | .v6 ip, port => .v6 ip port 0 0

def Ipv4Addr.toBits (ip : Ipv4Addr) : BitVec 32 :=
  ip.o0.toBitVec ++ ip.o1.toBitVec ++ ip.o2.toBitVec ++ ip.o3.toBitVec

/-- 10.0.0.0/8, 172.16.0.0/12 and 192.168.0.0/16. -/
def Ipv4Addr.isPrivate (ip : Ipv4Addr) : Bool :=
  ip.o0 == 10 || (ip.o0 == 172 && ip.o1 ≥ 16 && ip.o1 ≤ 31) || (ip.o0 == 192 && ip.o1 == 168)

def Ipv4Addr.isLoopback (ip : Ipv4Addr) : Bool := ip.o0 == 127

def Ipv4Addr.isLinkLocal (ip : Ipv4Addr) : Bool := ip.o0 == 169 && ip.o1 == 254

def Ipv4Addr.isUnspecified (ip : Ipv4Addr) : Bool := ip == .new 0 0 0 0

def Ipv4Addr.isBroadcast (ip : Ipv4Addr) : Bool := ip == .new 255 255 255 255

def Ipv4Addr.isMulticast (ip : Ipv4Addr) : Bool := ip.o0 ≥ 224 && ip.o0 ≤ 239

def Ipv6Addr.toBits (ip : Ipv6Addr) : BitVec 128 :=
  ip.s0.toBitVec ++ ip.s1.toBitVec ++ ip.s2.toBitVec ++ ip.s3.toBitVec ++
    ip.s4.toBitVec ++ ip.s5.toBitVec ++ ip.s6.toBitVec ++ ip.s7.toBitVec

def Ipv6Addr.isUniqueLocal (ip : Ipv6Addr) : Bool := ip.s0 &&& 0xfe00 == 0xfc00

def Ipv6Addr.isLoopback (ip : Ipv6Addr) : Bool := ip == .new 0 0 0 0 0 0 0 1

def Ipv6Addr.isUnspecified (ip : Ipv6Addr) : Bool := ip == .new 0 0 0 0 0 0 0 0

def Ipv6Addr.isMulticast (ip : Ipv6Addr) : Bool := ip.s0 &&& 0xff00 == 0xff00

/-- The rest of the operating system's kinds are `os`. -/
inductive ErrorKind
  | notFound
  | permissionDenied
  | invalidInput
  | invalidData
  | timedOut
  | unexpectedEof
  | writeZero
  | other
  | os (code : Nat)
  deriving DecidableEq, Repr

structure IoError where
  kind : ErrorKind
  message : String
  deriving DecidableEq, Repr

end UncrownedKing.Net
