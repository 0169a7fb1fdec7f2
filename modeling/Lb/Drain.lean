import Lb.Orchestrator

/-!
# The drain at shutdown

On a shutdown signal every announced address is withdrawn, and the speaker gets
two seconds to tell the peers. The tasks that apply configurations and record
health changes go on meanwhile, and compare what they find with an announced set
that is empty.
-/
namespace Lb.Orchestrator
open Lb.Addr Lb.Types Lb.Maglev Lb.Applier

namespace Controller
variable {x : Xxh3} {c : Controller}

/-- The announcer is attached, and believes that nothing is announced. -/
structure Drained (c : Controller) : Prop where
  attached : c.bgp = true
  nothing : c.vips_announced = ∅

/-- The operation finds no address with a healthy pool. -/
def FindsNone (c : Controller) : Op → Prop
  | .apply_config config => ∀ v4, ¬ HealthyVip (some config) c.health_status v4
  | .on_health_change backend_ip status _ _ =>
    ∀ v4, ¬ HealthyVip c.config (c.health_status.insert backend_ip status) v4
  | .tick _ | .flush_pending | .reannounce_all | .withdraw_all => True

/-- The calls announce nothing. -/
def Silent (calls : List BgpCall) : Prop := ∀ call ∈ calls, ∀ vips, call ≠ .announce vips

theorem silent_diff_empty {desired : Finset Ipv4Addr} : Silent (Feed.diff ∅ desired) ↔ desired = ∅ := by
  constructor
  · intro silent
    by_contra some_desired
    refine silent (.announce desired.sort) ?_ _ rfl
    simp [Feed.diff,Feed.announceAll,some_desired]
  · rintro rfl
    simp [Silent,Feed.diff,Feed.announceAll,Feed.withdrawAll]

theorem desired_empty_iff : c.desired_announced_vips = ∅ ↔ ∀ v4, ¬ HealthyVip c.config c.health_status v4 := by
  rw [Finset.eq_empty_iff_forall_notMem]
  exact forall_congr' fun v4 => not_congr mem_desired

/-- After the drain an operation announces nothing if and only if it finds nothing. -/
theorem Drained.silent_iff (drained : c.Drained) (op : Op) : Silent (c.perform x op).2 ↔ c.FindsNone op := by
  cases op with
  | apply_config config =>
    rw [perform,apply_config_eq drained.attached,drained.nothing,silent_diff_empty,desired_empty_iff]
    exact Iff.rfl
  | on_health_change backend_ip status now now' =>
    obtain ⟨_,_,config,health⟩ := c.accumulate_announced backend_ip status now
    rw [perform,on_health_change_eq drained.attached,drained.nothing,silent_diff_empty,desired_empty_iff,config,health]
    exact Iff.rfl
  | tick now => simp [perform,Silent,FindsNone]
  | flush_pending => simp [perform,Silent,FindsNone]
  | reannounce_all => simp [perform,reannounce_all,Silent,FindsNone,drained.nothing,Feed.announceAll]
  | withdraw_all => simp [perform,withdraw_all,Silent,FindsNone,drained.nothing,Feed.withdrawAll]

theorem Drained.perform (drained : c.Drained) {op : Op} (finds_none : c.FindsNone op) :
    (c.perform x op).1.Drained := by
  have announces := perform_announces (x := x) drained.attached op
  refine ⟨announces.attached,?_⟩
  rw [← announces.leads.whole,drained.nothing]
  have silent := (drained.silent_iff (x := x) op).mpr finds_none
  generalize (c.perform x op).2 = calls at silent
  induction calls with
  | nil => rfl
  | cons call calls ih =>
    obtain ⟨first,rest⟩ := List.forall_mem_cons.mp silent
    cases call with
    | announce vips => exact absurd rfl (first vips)
    | withdraw vips => simpa [Feed.Update.apply] using ih rest

theorem withdraw_all_drained (attached : c.bgp = true) : c.withdraw_all.1.Drained := ⟨attached,rfl⟩

/-- Without an announcer there are no calls. -/
theorem perform_detached (detached : c.bgp = false) (op : Op) :
    (c.perform x op).1.bgp = false ∧ (c.perform x op).2 = [] := by
  cases op with
  | apply_config config => simp [perform,apply_config,install,sync_bgp_announcements,detached]
  | on_health_change backend_ip status now now' =>
    obtain ⟨_,bgp,_,_⟩ := c.accumulate_announced backend_ip status now
    obtain ⟨_,bgp',_,_⟩ := (c.accumulate backend_ip status now).maybe_flush_announced (x := x) now'
    simp [perform,on_health_change,sync_bgp_announcements,bgp,bgp',detached]
  | tick now => exact ⟨(c.maybe_flush_announced now).2.1.trans detached,rfl⟩
  | flush_pending =>
    rw [perform,flush_pending,flush_eq]
    exact ⟨detached,rfl⟩
  | reannounce_all => simp [perform,reannounce_all,detached]
  | withdraw_all => simp [perform,withdraw_all,detached]

end Controller

/-- Nothing is announced after the drain if and only if no later change of the
    configuration or of the health finds an address with a healthy pool. -/
theorem drain_final (x : Xxh3) (c : Controller) (ops : List Op) :
    Controller.Silent (Runs.effects (Controller.perform x) c.withdraw_all.1 ops) ↔
      (c.bgp = true → Runs.Along (fun c op => (c.perform x op).1) Controller.FindsNone c.withdraw_all.1 ops) := by
  by_cases attached : c.bgp = true
  · refine (Runs.forall_effects_iff (Controller.perform x) (fun call => ∀ vips, call ≠ .announce vips)
      (fun _ _ drained finds_none => Controller.Drained.perform drained finds_none)
      (fun _ op drained => drained.silent_iff op) (Controller.withdraw_all_drained attached) ops).trans ?_
    exact ⟨fun along _ => along,fun along => along attached⟩
  · have detached : c.withdraw_all.1.bgp = false := by simpa [Controller.withdraw_all] using attached
    have silent := (Runs.forall_effects_iff (Controller.perform x) (fun call => ∀ vips, call ≠ .announce vips)
      (fun (c : Controller) op (detached : c.bgp = false) (_ : True) => (Controller.perform_detached detached op).1)
      (fun c op detached => by simp [(Controller.perform_detached (x := x) detached op).2]) detached ops).mpr
      (Runs.along_of_forall (fun _ _ => trivial) _ ops)
    exact ⟨fun _ attached' => absurd attached' attached,fun _ => silent⟩

/-- One pool with one backend. -/
private def single : LbConfig where
  vips := [⟨⟨"web"⟩,.V4 ⟨188,184,100,10⟩,[⟨.Tcp,443,"pool"⟩]⟩]
  pools := [⟨⟨"pool"⟩,[⟨.V4 ⟨10,0,0,1⟩,443,1,false⟩]⟩]

/-- A configuration that is applied during the drain announces the withdrawn
    address again. -/
theorem drain_undone : ¬ ∀ (x : Xxh3) (c : Controller) (ops : List Op),
    Controller.Silent (Runs.effects (Controller.perform x) c.withdraw_all.1 ops) := by
  intro silent
  let node := (((Controller.new ∅ ∅ ⟨2,Nat.prime_two⟩).with_bgp).apply_config ⟨fun _ => 0,fun _ _ => 0⟩ single).1
  have quiet := silent ⟨fun _ => 0,fun _ _ => 0⟩ node [.apply_config single]
  have drained : node.withdraw_all.1.Drained := Controller.withdraw_all_drained rfl
  have finds_none := (drained.silent_iff _).mp (by simpa [Runs.effects] using quiet)
  refine finds_none ⟨188,184,100,10⟩
    ⟨single,rfl,_,List.mem_cons_self,rfl,_,List.mem_cons_self,_,rfl,_,List.mem_cons_self,?_⟩
  decide

end Lb.Orchestrator
