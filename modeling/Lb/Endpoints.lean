import Lb.AddrText
import Lb.Text
import Lb.Tracer

/-!
# Endpoints

The command line of the tracer takes the endpoints of a flow as text. The name of a
backend is such a text as well.
-/
namespace Lb.Endpoints
open Lb.Addr Lb.Types Lb.Tracer

/-- The text before and after the first `c`. -/
def split_once (c : Char) : List Char → Option (List Char × List Char)
  | [] => none
  | d :: rest => if d = c then some ([],rest) else (split_once c rest).map fun (front,back) => (d :: front,back)
/-- The text before and after the last `c`. -/
def rsplit_once (c : Char) : List Char → Option (List Char × List Char)
  | [] => none
  | d :: rest =>
    match rsplit_once c rest with
    | some (front,back) => some (d :: front,back)
    | none => if d = c then some ([],rest) else none

/-- `parse` of a 16-bit number; its errors are dropped. -/
def parse_u16 (s : List Char) : Option UInt16 :=
  match Text.parse_u64 s with
  | .ok n => if n ≤ 0xFFFF then some n.toUInt16 else none
  | .error _ => none

def parse_addr (s : List Char) : Option (IpAddr × UInt16) :=
  match s with
  | '[' :: rest => do
    let (ip_str,rest) ← split_once ']' rest
    let port_str ← read_given_char ':' rest
    some (← IpAddr.from_str ip_str,← parse_u16 port_str)
  | s => do
    let (ip_str,port_str) ← rsplit_once ':' s
    some (← IpAddr.from_str ip_str,← parse_u16 port_str)

/-- The request that the command line asks for, or the message with which it ends. -/
def request (src dst proto : List Char) : Except String TraceRequest :=
  match parse_addr src with
  | none => .error ("invalid --src: " ++ .ofList src)
  | some (src_ip,src_port) =>
    match parse_addr dst with
    | none => .error ("invalid --dst: " ++ .ofList dst)
    | some (dst_ip,dst_port) =>
      let lower := proto.map Char.toLower
      if lower = ['t','c','p'] then .ok ⟨src_ip,src_port,dst_ip,dst_port,.Tcp⟩
      else if lower = ['u','d','p'] then .ok ⟨src_ip,src_port,dst_ip,dst_port,.Udp⟩
      else .error ("unsupported --proto: " ++ .ofList lower ++ " (expected tcp or udp)")

/-! ### Splitting -/

section
variable {c : Char} {front : List Char}

theorem split_once_append (absent : c ∉ front) (back : List Char) :
    split_once c (front ++ c :: back) = some (front,back) := by
  induction front with
  | nil => simp [split_once]
  | cons d front ih =>
    rw [List.mem_cons,not_or] at absent
    rw [List.cons_append,split_once,if_neg (Ne.symm absent.1),ih absent.2]
    rfl

theorem rsplit_once_none {s : List Char} (absent : c ∉ s) : rsplit_once c s = none := by
  induction s with
  | nil => rfl
  | cons d s ih =>
    rw [List.mem_cons,not_or] at absent
    rw [rsplit_once,ih absent.2]
    exact if_neg (Ne.symm absent.1)

theorem rsplit_once_append (front : List Char) {back : List Char} (absent : c ∉ back) :
    rsplit_once c (front ++ c :: back) = some (front,back) := by
  induction front with
  | nil =>
    rw [List.nil_append,rsplit_once,rsplit_once_none absent]
    exact if_pos rfl
  | cons d front ih => rw [List.cons_append,rsplit_once,ih]

end

/-! ### Endpoints -/

theorem parse_u16_toDigits (port : UInt16) : parse_u16 (Nat.toDigits 10 port.toNat) = some port := by
  have small := port.toNat_lt
  have written := Text.parse_u64_toDigits port.toUInt64
  rw [UInt16.toNat_toUInt64] at written
  rw [parse_u16,written]
  dsimp only
  rw [if_pos]
  · simp
  · rw [UInt64.le_iff_toNat_le,UInt16.toNat_toUInt64]
    exact Nat.le_of_lt_succ small

/-- A port has no colon. -/
theorem port_colonless (port : Nat) : ':' ∉ Nat.toDigits 10 port := by
  intro listed
  have digit := Nat.isDigit_of_mem_toDigits (by decide) (by decide) listed
  cases digit

/-- An address has no bracket. -/
theorem fmt_bracketless (ip : IpAddr) : '[' ∉ ip.fmt ∧ ']' ∉ ip.fmt := by
  constructor
  · intro listed
    rcases fmt_addrChar _ listed with dot | colon | hex
    · cases dot
    · cases colon
    · cases hex
  · intro listed
    rcases fmt_addrChar _ listed with dot | colon | hex
    · cases dot
    · cases colon
    · cases hex

variable (ip : IpAddr) (port : UInt16)

/-- An endpoint as the name of a backend has it. -/
def plain : List Char := ip.fmt ++ ':' :: Nat.toDigits 10 port.toNat
/-- An endpoint with the address in brackets. -/
def bracketed : List Char := '[' :: ip.fmt ++ ']' :: ':' :: Nat.toDigits 10 port.toNat

theorem parse_addr_plain : parse_addr (plain ip port) = some (ip,port) := by
  have split := rsplit_once_append ip.fmt (port_colonless port.toNat)
  have unbracketed : parse_addr (plain ip port) = (do
      let (ip_str,port_str) ← rsplit_once ':' (plain ip port)
      some (← IpAddr.from_str ip_str,← parse_u16 port_str)) := by
    unfold parse_addr
    split
    · rename_i rest first
      have listed : '[' ∈ plain ip port := by
        rw [first]
        exact List.mem_cons_self
      rcases List.mem_append.mp listed with addr | behind
      · exact absurd addr (fmt_bracketless ip).1
      · rcases List.mem_cons.mp behind with colon | digit
        · cases colon
        · cases Nat.isDigit_of_mem_toDigits (by decide) (by decide) digit
    · rfl
  rw [unbracketed,plain,split]
  simp only [Option.bind_eq_bind,Option.bind_some,from_str_fmt,parse_u16_toDigits]

theorem parse_addr_bracketed : parse_addr (bracketed ip port) = some (ip,port) := by
  have split := split_once_append (fmt_bracketless ip).2 (':' :: Nat.toDigits 10 port.toNat)
  show (do
    let (ip_str,rest) ← split_once ']' (ip.fmt ++ ']' :: ':' :: Nat.toDigits 10 port.toNat)
    let port_str ← read_given_char ':' rest
    some (← IpAddr.from_str ip_str,← parse_u16 port_str)) = _
  rw [split]
  simp only [Option.bind_eq_bind,Option.bind_some,read_given_char,if_pos,from_str_fmt,parse_u16_toDigits]

/-- The ways in which the protocol can be written. -/
def Names (protocol : Protocol) (proto : List Char) : Prop :=
  proto.map Char.toLower = match protocol with
    | .Tcp => ['t','c','p']
    | .Udp => ['u','d','p']

/-- Backends have the same name only if they have the same address and port, and the
    command line asks for the flow whose endpoints it is given, bracketed or not. -/
theorem endpoint_round_trip :
    (∀ b b' : Backend, b.name = b'.name ↔ b.ip = b'.ip ∧ b.port = b'.port) ∧
    ∀ (req : TraceRequest) (src dst proto : List Char), Names req.protocol proto →
      (src = plain req.src_ip req.src_port ∨ src = bracketed req.src_ip req.src_port) →
      (dst = plain req.dst_ip req.dst_port ∨ dst = bracketed req.dst_ip req.dst_port) →
      request src dst proto = .ok req := by
  have either : ∀ (ip : IpAddr) (port : UInt16) (s : List Char), s = plain ip port ∨ s = bracketed ip port →
      parse_addr s = some (ip,port) := by
    rintro ip port s (rfl | rfl)
    · exact parse_addr_plain ip port
    · exact parse_addr_bracketed ip port
  constructor
  · intro b b'
    constructor
    · intro same
      have one : parse_addr b.name = some (b.ip,b.port) := parse_addr_plain b.ip b.port
      have other : parse_addr b'.name = some (b'.ip,b'.port) := parse_addr_plain b'.ip b'.port
      rw [same,other,Option.some.injEq,Prod.mk.injEq] at one
      exact ⟨one.1.symm,one.2.symm⟩
    · rintro ⟨ip,port⟩
      rw [Backend.name,Backend.name,ip,port]
  · intro req src dst proto named source destination
    rw [request,either _ _ _ source]
    dsimp only
    rw [either _ _ _ destination]
    dsimp only
    rw [named]
    cases protocol : req.protocol with
    | Tcp =>
      rw [if_pos rfl,← protocol]
    | Udp =>
      rw [if_neg (by decide),if_pos rfl,← protocol]

/-- A client with an IPv6 address, and a service that is asked for in capitals. -/
theorem endpoint_round_trip_ipv6 : request "2001:db8::1:0:0:1:40000".toList "[2001:db8::10]:443".toList "TCP".toList =
    .ok ⟨.V6 ⟨0x2001,0xdb8,0,0,1,0,0,1⟩,40000,.V6 ⟨0x2001,0xdb8,0,0,0,0,0,0x10⟩,443,.Tcp⟩ :=
  endpoint_round_trip.2 ⟨.V6 ⟨0x2001,0xdb8,0,0,1,0,0,1⟩,40000,.V6 ⟨0x2001,0xdb8,0,0,0,0,0,0x10⟩,443,.Tcp⟩ _ _ _
    (by rfl) (.inl (by decide)) (.inr (by decide))

end Lb.Endpoints
