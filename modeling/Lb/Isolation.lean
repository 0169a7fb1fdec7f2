import Lb.Icmp
import Lb.RateLimits

/-!
# ICMP errors of one service

A thread has one limiter for the errors of all services. What is sent on behalf
of one service depends on the packets to the others only by the limit that their
errors use up.
-/
namespace Lb.Icmp
open Lb.Addr Lb.Types Lb.Packet Lb.Buffer Lb.Mtu Lb.Rewriter

instance (l : IcmpRateLimiter) (now : Nat) : Decidable (l.Exhausted now) := inferInstanceAs (Decidable (_ ∨ _))

/-- An IPv4 packet to the address of the service. -/
def addressed (vip : Ipv4Addr) (a : Arrival) : Bool :=
  20 ≤ a.input.len && byte a.input.as_slice 0 >>> 4 == 4 && ipv4_at a.input.as_slice 16 == vip

/-- The thread after a packet, and the error to its sender if it is addressed to the
    service. -/
def respond (x : Xxh3) (vip : Ipv4Addr) (r : RewriterThread) (a : Arrival) :
    RewriterThread × List (Option PacketBuf) :=
  (r.step x a,if addressed vip a = true then [error_of (r.process_one x a.shared a.input a.now).2] else [])
/-- What the senders to the service are told, packet by packet. -/
def responses (x : Xxh3) (vip : Ipv4Addr) (r : RewriterThread) (arrivals : List Arrival) : List (Option PacketBuf) :=
  Runs.effects (respond x vip) r arrivals

/-- The packets for which an error is due: whether they are addressed to the
    service, and when they arrive. -/
def requests (mtu_config : MtuConfig) (vip : Ipv4Addr) (arrivals : List Arrival) : List (Bool × Nat) :=
  (arrivals.filter fun a => (due mtu_config a.shared a.input).isSome).map fun a => (addressed vip a,a.now)

def refuse (l : IcmpRateLimiter) (request : Bool × Nat) : IcmpRateLimiter × List Bool :=
  ((l.allow request.2).1,if request.1 = true then [decide (l.Exhausted request.2)] else [])
/-- For each error due to a sender to the service, whether the limit is used up by
    then. -/
def refusals (l : IcmpRateLimiter) (requests : List (Bool × Nat)) : List Bool := Runs.effects refuse l requests

/-- The errors that are due, without those that are refused. -/
def replies : List (Option PacketBuf) → List Bool → List (Option PacketBuf)
  | none :: dues, refused => none :: replies dues refused
  | some error :: dues, refused :: later => (if refused = true then none else some error) :: replies dues later
  | _, _ => []

/-- The errors due to the senders to the service. -/
def own_dues (mtu_config : MtuConfig) (vip : Ipv4Addr) (arrivals : List Arrival) : List (Option PacketBuf) :=
  (arrivals.filter (addressed vip)).map fun a => due mtu_config a.shared a.input

section
variable {x : Xxh3} {r : RewriterThread} {vip : Ipv4Addr}

/-- Different refusals lead to different replies. -/
theorem replies_inj {dues : List (Option PacketBuf)} {refused refused' : List Bool}
    (one : refused.length = dues.countP Option.isSome) (one' : refused'.length = dues.countP Option.isSome) :
    replies dues refused = replies dues refused' ↔ refused = refused' := by
  induction dues generalizing refused refused' with
  | nil =>
    obtain rfl := List.length_eq_zero_iff.mp one
    obtain rfl := List.length_eq_zero_iff.mp one'
    simp
  | cons error dues ih =>
    cases error with
    | none =>
      simp only [List.countP_cons,Option.isSome_none,Bool.false_eq_true,if_false,Nat.add_zero] at one one'
      simp only [replies,List.cons.injEq,true_and]
      exact ih one one'
    | some error =>
      simp only [List.countP_cons,Option.isSome_some,if_true] at one one'
      obtain ⟨first,later,rfl⟩ := List.exists_cons_of_length_eq_add_one one
      obtain ⟨first',later',rfl⟩ := List.exists_cons_of_length_eq_add_one one'
      simp only [List.length_cons,Nat.add_right_cancel_iff] at one one'
      simp only [replies,List.cons.injEq]
      rw [ih one one']
      refine and_congr_left fun _ => ?_
      cases first <;> cases first' <;> simp

theorem requests_cons (mtu_config : MtuConfig) (a : Arrival) (arrivals : List Arrival) :
    requests mtu_config vip (a :: arrivals) =
      (if (due mtu_config a.shared a.input).isSome = true then [(addressed vip a,a.now)] else []) ++
        requests mtu_config vip arrivals := by
  rw [requests,List.filter_cons]
  split_ifs
  · rfl
  · rfl
theorem own_dues_cons (mtu_config : MtuConfig) (a : Arrival) (arrivals : List Arrival) :
    own_dues mtu_config vip (a :: arrivals) =
      (if addressed vip a = true then [due mtu_config a.shared a.input] else []) ++ own_dues mtu_config vip arrivals := by
  rw [own_dues,List.filter_cons]
  split_ifs
  · rfl
  · rfl

theorem refusals_length (mtu_config : MtuConfig) (l : IcmpRateLimiter) (arrivals : List Arrival) :
    (refusals l (requests mtu_config vip arrivals)).length = (own_dues mtu_config vip arrivals).countP Option.isSome := by
  induction arrivals generalizing l with
  | nil => rfl
  | cons a arrivals ih =>
    rw [requests_cons,own_dues_cons]
    cases error : due mtu_config a.shared a.input with
    | none =>
      cases own : addressed vip a with
      | false => simpa using ih l
      | true => simpa using ih l
    | some pkt =>
      have rest := ih (l.allow a.now).1
      cases own : addressed vip a with
      | false => simpa [refusals,Runs.effects,refuse] using rest
      | true => simpa [refusals,Runs.effects,refuse,List.countP_cons] using rest

/-- What the senders to a service are told follows from the errors due to them and
    from what the limiter is asked. -/
theorem responses_eq (x : Xxh3) (vip : Ipv4Addr) (r : RewriterThread) (arrivals : List Arrival) :
    responses x vip r arrivals = replies (own_dues r.mtu_config vip arrivals)
      (refusals r.icmp_rate_limiter (requests r.mtu_config vip arrivals)) := by
  induction arrivals generalizing r with
  | nil => rfl
  | cons a arrivals ih =>
    obtain ⟨limiter,result⟩ := Prod.ext_iff.mp (process_one_icmp x r a.shared a.input a.now)
    have config : (r.step x a).mtu_config = r.mtu_config :=
      (RewriterThread.process_one_tables x r a.shared a.input a.now).2.2.2
    have rest := ih (r.step x a)
    rw [config] at rest
    rw [responses,Runs.effects,respond,← responses]
    dsimp only
    dsimp only at limiter result
    rw [rest,requests_cons,own_dues_cons,RewriterThread.step,limiter,result]
    cases due r.mtu_config a.shared a.input with
    | none =>
      cases addressed vip a with
      | false => rfl
      | true => rfl
    | some pkt =>
      cases addressed vip a with
      | false => rfl
      | true =>
        have refused := @IcmpRateLimiter.not_allowed r.icmp_rate_limiter a.now
        cases allowed : (r.icmp_rate_limiter.allow a.now).2 with
        | false => simp [replies,refusals,Runs.effects,refuse,refused.mp allowed]
        | true =>
          have within : ¬ r.icmp_rate_limiter.Exhausted a.now := by simp [← refused,allowed]
          simp [replies,refusals,Runs.effects,refuse,within]

end

/-- In two runs that agree on the packets to a service the senders to it are told
    the same exactly if its errors find the limit used up in both runs or in
    neither. -/
theorem isolated_iff (x : Xxh3) (r : RewriterThread) (vip : Ipv4Addr) (arrivals arrivals' : List Arrival)
    (agree : arrivals.filter (addressed vip) = arrivals'.filter (addressed vip)) :
    responses x vip r arrivals = responses x vip r arrivals' ↔
      refusals r.icmp_rate_limiter (requests r.mtu_config vip arrivals) =
        refusals r.icmp_rate_limiter (requests r.mtu_config vip arrivals') := by
  have same : own_dues r.mtu_config vip arrivals' = own_dues r.mtu_config vip arrivals := by
    rw [own_dues,own_dues,agree]
  rw [responses_eq,responses_eq,same]
  refine replies_inj (refusals_length _ _ _) ?_
  rw [← same]
  exact refusals_length _ _ _

/-! ### Two services -/

/-- Two services with one pool. -/
private def services : LbConfig where
  vips := [⟨⟨"web"⟩,.V4 ⟨188,184,100,10⟩,[⟨.Udp,443,"pool"⟩]⟩,⟨⟨"api"⟩,.V4 ⟨188,184,100,11⟩,[⟨.Udp,443,"pool"⟩]⟩]
  pools := (pair false).pools
/-- A datagram of 1500 bytes to one of them that must not be fragmented. -/
private def datagram_to (host : UInt8) : PacketBuf :=
  .from_slice ([0x45,0] ++ to_be_bytes 1500 ++ [0,7,0x40,0,64,17,0,0,10,1,0,1,188,184,100,host] ++
    to_be_bytes 40000 ++ to_be_bytes 443 ++ List.replicate 1476 0)
private def datagram_arrival (host : UInt8) : Arrival where
  shared := {
    vip_matcher := Vips.build_vip_matcher services
    lookup_tables := Applier.build_lookup_tables hashedPair services ∅ ⟨2,Nat.prime_two⟩
    health_status := ∅ }
  input := datagram_to host
  now := from_secs 1
/-- A thread that may send one error a second. -/
private def sparing : RewriterThread :=
  .new (.V4 ⟨172,16,0,1⟩) 2 two_bits minutes 2 two_bits (from_secs 10) mtu1500 1 0

private theorem agree_on_web :
    [datagram_arrival 10].filter (addressed ⟨188,184,100,10⟩) =
      [datagram_arrival 11,datagram_arrival 10].filter (addressed ⟨188,184,100,10⟩) := by
  have web : addressed ⟨188,184,100,10⟩ (datagram_arrival 10) = true := by decide +kernel
  have api : addressed ⟨188,184,100,10⟩ (datagram_arrival 11) = false := by decide +kernel
  simp [web,api]

theorem isolated_iff_two :
    responses hashedPair ⟨188,184,100,10⟩ sparing [datagram_arrival 10] =
      responses hashedPair ⟨188,184,100,10⟩ sparing [datagram_arrival 11,datagram_arrival 10] ↔
    refusals sparing.icmp_rate_limiter (requests sparing.mtu_config ⟨188,184,100,10⟩ [datagram_arrival 10]) =
      refusals sparing.icmp_rate_limiter
        (requests sparing.mtu_config ⟨188,184,100,10⟩ [datagram_arrival 11,datagram_arrival 10]) :=
  isolated_iff hashedPair sparing ⟨188,184,100,10⟩ [datagram_arrival 10] [datagram_arrival 11,datagram_arrival 10]
    agree_on_web

/-- A datagram to one service uses up the limit that the sender to the other needs. -/
theorem limit_is_shared :
    ¬ ∀ (x : Xxh3) (r : RewriterThread) (vip : Ipv4Addr) (arrivals arrivals' : List Arrival),
      arrivals.filter (addressed vip) = arrivals'.filter (addressed vip) →
      responses x vip r arrivals = responses x vip r arrivals' := by
  intro isolated
  have same := isolated hashedPair sparing ⟨188,184,100,10⟩ [datagram_arrival 10]
    [datagram_arrival 11,datagram_arrival 10] agree_on_web
  have told : (responses hashedPair ⟨188,184,100,10⟩ sparing [datagram_arrival 10]).any Option.isSome = true := by
    decide +kernel
  have refused : (responses hashedPair ⟨188,184,100,10⟩ sparing [datagram_arrival 11,datagram_arrival 10]).any
    Option.isSome = false := by decide +kernel
  rw [same,refused] at told
  cases told

end Lb.Icmp
