import Lb.Addr
import Mathlib.Data.Finmap

/-!
# Shared types

The configuration, the backends and their health, as the forwarder and the
controller share them. A `HashMap` is a finite map: no modelled function depends
on its iteration order.
-/
namespace Lb.Types
open Lb.Addr

abbrev HashMap (K V : Type) := Finmap (fun _ : K => V)

/-- `xxh3_64` and `xxh3_64_with_seed` of the `xxhash_rust` package. -/
structure Xxh3 where
  xxh3_64 : List UInt8 → UInt64
  xxh3_64_with_seed : List UInt8 → UInt64 → UInt64

/-- L4 protocols, with their IP protocol numbers. -/
inductive Protocol
  | Tcp
  | Udp
deriving DecidableEq

def Protocol.toU8 : Protocol → UInt8
  | .Tcp => 6
  | .Udp => 17
def Protocol.from_ip_proto (proto : UInt8) : Option Protocol :=
  if proto = 6 then some .Tcp else if proto = 17 then some .Udp else none

theorem Protocol.from_ip_proto_eq_some {proto : UInt8} {p : Protocol} :
    Protocol.from_ip_proto proto = some p ↔ proto = p.toU8 := by
  unfold from_ip_proto
  cases p <;> split_ifs with tcp udp <;> simp_all [toU8]

structure BackendPoolId where
  id : String
deriving DecidableEq

inductive HealthStatus
  | Unknown
  | Healthy
  | Unhealthy
deriving DecidableEq

/-- A backend server; `weight` is its Maglev weight, and `drain` takes it out of
    the next rebuild. -/
structure Backend where
  ip : IpAddr
  port : UInt16
  weight : UInt32
  drain : Bool
deriving DecidableEq

def Backend.new (ip : IpAddr) (port : UInt16) : Backend := ⟨ip,port,1,false⟩
/-- The text `ip:port`, from which the permutation of the backend is derived. -/
def Backend.name (b : Backend) : List Char := b.ip.fmt ++ ':' :: Nat.toDigits 10 b.port.toNat
/-- The bytes of an ASCII text. -/
def as_bytes (text : List Char) : List UInt8 := text.map (fun c => UInt8.ofNat c.toNat)

structure BackendPool where
  id : BackendPoolId
  backends : List Backend
deriving DecidableEq

structure VipId where
  id : String
deriving DecidableEq

structure VipService where
  protocol : Protocol
  port : UInt16
  backend_pool : String
deriving DecidableEq

structure Vip where
  id : VipId
  address : IpAddr
  services : List VipService
deriving DecidableEq

structure LbConfig where
  vips : List Vip
  pools : List BackendPool
deriving DecidableEq

/-- Time to live of a tracked connection, by protocol and TCP state, in
    nanoseconds. -/
structure ConnTtls where
  tcp_handshake : Nat
  tcp_established : Nat
  tcp_closing : Nat
  udp : Nat
  other : Nat
deriving DecidableEq

def from_secs (secs : Nat) : Nat := secs * 1000000000
def ConnTtls.with_established (established : Nat) : ConnTtls where
  tcp_handshake := from_secs 5
  tcp_established := established
  tcp_closing := from_secs 10
  udp := from_secs 30
  other := from_secs 30

end Lb.Types
