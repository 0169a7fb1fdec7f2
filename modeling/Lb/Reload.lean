import Lb.System
import Lb.Interleavings

/-!
# Reloads under traffic

A batch that begins while a configuration is reloaded may get the matcher of one
configuration and the tables of the other. A service that both configurations
have resolves all the same exactly if each of them knows the pool that the other
one sends the service to.
-/
namespace Lb.System
open Lb.Addr Lb.Types Lb.Packet Lb.Buffer Lb.Maglev Lb.Applier Lb.Vips Lb.Rewriter Lb.Orchestrator Lb.Interleavings

/-- Every pool has a backend that can take traffic. -/
def Able (config : LbConfig) (health : Health) : Prop :=
  ∀ pool ∈ config.pools, ∃ b ∈ pool.backends, b.drain = false ∧ health.lookup b.ip ≠ some .Unhealthy ∧ 0 < b.weight

instance (config : LbConfig) (health : Health) : Decidable (Able config health) :=
  inferInstanceAs (Decidable (∀ pool ∈ config.pools, _))

def HasPool (config : LbConfig) (id : BackendPoolId) : Prop := ∃ pool ∈ config.pools, pool.id = id

/-- The configuration has just been applied, and its matcher stored. -/
structure Applied (x : Xxh3) (config : LbConfig) (n : Node) : Prop where
  matcher : n.vip_matcher = build_vip_matcher config
  applied : ∃ c : Controller, Able config c.health_status ∧ n.controller = (c.apply_config x config).1

/-- The matcher and the tables are those of the configuration. -/
structure Serves (config : LbConfig) (n : Node) : Prop where
  matcher : n.vip_matcher = build_vip_matcher config
  configured : n.controller.config = some config
  tables : ∀ id, id ∈ n.controller.lookup_tables ↔ HasPool config id

/-- The event is no part of a reload. -/
def Quiet : Event → Prop
  | .store_matcher _ | .control (.apply_config _) => False
  | .control _ | .load_matcher | .load_tables | .process _ _ => True

section
variable {x : Xxh3} {config : LbConfig} {n : Node} {m : TableSize} {c : Controller}

/-- A node that boots with a configuration has it applied. -/
theorem start_applied (able : Able config ∅) (rewriter : RewriterThread) :
    Applied x config (.start x (some config) m rewriter) := ⟨rfl,_,able,rfl⟩
/-- A reload applies the configuration. -/
theorem reload_applied (able : Able config n.controller.health_status) :
    Applied x config ((reload config).foldl (Node.step x) n) := ⟨rfl,_,able,rfl⟩

theorem Able.buildable {health : Health} (able : Able config health) {id : BackendPoolId} (known : HasPool config id) :
    Controller.BuildableId config health id := by
  obtain ⟨pool,listed,own⟩ := known
  obtain ⟨b,inside,undrained,healthy,weighted⟩ := able pool listed
  exact ⟨pool,listed,own,.inl ⟨b,mem_active_backends.mpr ⟨inside,undrained,usable_iff.mpr healthy⟩,weighted⟩⟩

/-- All pools get a table when a configuration is applied, and no others do. -/
theorem mem_apply_config (able : Able config c.health_status) (id : BackendPoolId) :
    id ∈ (c.apply_config x config).1.lookup_tables ↔ HasPool config id := by
  obtain ⟨vips,state⟩ := (c.install x config).sync_state
  rw [Controller.apply_config,state]
  show id ∈ build_lookup_tables x config c.health_status c.table_size ↔ _
  rw [← Finmap.lookup_isSome,build_lookup_tables,lookup_build,table_of_isSome]
  constructor
  · rintro ⟨pool,listed,own,_⟩
    exact ⟨pool,listed,own⟩
  · exact able.buildable
theorem apply_config_config : (c.apply_config x config).1.config = some config := by
  obtain ⟨vips,state⟩ := (c.install x config).sync_state
  rw [Controller.apply_config,state]
  rfl

theorem Applied.serves (applied : Applied x config n) : Serves config n := by
  obtain ⟨matcher,c,able,state⟩ := applied
  refine ⟨matcher,?_,fun id => ?_⟩
  · rw [state]
    exact apply_config_config
  · rw [state]
    exact mem_apply_config able id

/-- A flush leaves the map with the tables of the pools of the configuration. -/
theorem mem_flush (configured : c.config = some config) (tables : ∀ id, id ∈ c.lookup_tables ↔ HasPool config id)
    (id : BackendPoolId) : id ∈ (c.flush x).lookup_tables ↔ HasPool config id := by
  rw [Controller.flush_eq,← Finmap.lookup_isSome]
  dsimp only
  rw [Controller.lookup_flushed configured,Option.isSome_or,Bool.or_eq_true,Finmap.lookup_isSome,tables]
  constructor
  · rintro (rebuilt | known)
    · split_ifs at rebuilt
      · obtain ⟨pool,listed,own,_⟩ := table_of_isSome.mp rebuilt
        exact ⟨pool,listed,own⟩
      · cases rebuilt
    · exact known
  · exact .inr

/-- Between reloads a node goes on to serve its configuration. -/
theorem Serves.step (serves : Serves config n) {event : Event} (quiet : Quiet event) :
    Serves config (n.step x event) := by
  obtain ⟨matcher,configured,tables⟩ := serves
  have flushes : ∀ c : Controller, c.config = some config → (∀ id, id ∈ c.lookup_tables ↔ HasPool config id) →
      ∀ now, (c.maybe_flush x now).config = some config ∧
        ∀ id, id ∈ (c.maybe_flush x now).lookup_tables ↔ HasPool config id := by
    intro c configured tables now
    rcases c.maybe_flush_cases (x := x) now with same | flushed
    · rw [same]
      exact ⟨configured,tables⟩
    · rw [flushed]
      exact ⟨by rw [Controller.flush_eq]; exact configured,mem_flush configured tables⟩
  cases event with
  | store_matcher config' => cases quiet
  | load_matcher => exact ⟨matcher,configured,tables⟩
  | load_tables => exact ⟨matcher,configured,tables⟩
  | process input now => exact ⟨matcher,configured,tables⟩
  | control op =>
    cases op with
    | apply_config config' => cases quiet
    | on_health_change backend_ip status now now' =>
      obtain ⟨vips,state⟩ := n.controller.on_health_change_state (x := x) backend_ip status now now'
      obtain ⟨configured',tables'⟩ := flushes (n.controller.accumulate backend_ip status now)
        (by rw [Controller.accumulate_eq]; exact configured) (by rw [Controller.accumulate_eq]; exact tables) now'
      refine ⟨matcher,?_,?_⟩
      · show (n.controller.on_health_change x backend_ip status now now').1.config = some config
        rw [state]
        exact configured'
      · show ∀ id, id ∈ (n.controller.on_health_change x backend_ip status now now').1.lookup_tables ↔ _
        rw [state]
        exact tables'
    | tick now =>
      obtain ⟨configured',tables'⟩ := flushes n.controller configured tables now
      exact ⟨matcher,configured',tables'⟩
    | flush_pending =>
      refine ⟨matcher,?_,mem_flush configured tables⟩
      show (n.controller.flush x).config = some config
      rw [Controller.flush_eq]
      exact configured
    | reannounce_all => exact ⟨matcher,configured,tables⟩
    | withdraw_all => exact ⟨matcher,configured,tables⟩

theorem Serves.run (serves : Serves config n) {events : List Event} (quiet : ∀ event ∈ events, Quiet event) :
    Serves config (events.foldl (Node.step x) n) := by
  have along : Runs.Along (Node.step x) (fun _ _ => True) n events := Runs.along_of_forall (fun _ _ => trivial) n events
  exact (along.with_mem quiet).invariant (Serves config) (fun _ _ serves quiet => serves.step quiet.2) serves

end

/-- The pool of a service of a configuration. -/
theorem matched_service {config : LbConfig} (accepted : Validator.Accepted config) {input : PacketBuf}
    {pkt_meta : PacketMeta} (parsed : PacketMeta.from_ipv4_bytes input.as_slice = some pkt_meta)
    (declared : Declares config pkt_meta.dst_ip pkt_meta.protocol pkt_meta.dst_port) :
    ∃ id, matched_pool (build_vip_matcher config) input = some id ∧ HasPool config id := by
  obtain ⟨id,matched⟩ := Option.isSome_iff_exists.mp (match_packet_isSome.mpr declared)
  obtain ⟨vip,listed,svc,offered,_,_,_,rfl⟩ := match_packet_service matched
  refine ⟨_,?_,accepted.resolves listed offered⟩
  rw [matched_pool,parsed]
  exact matched

/-- The packets of a service that two configurations have resolve in every
    interleaving of the reload with the loads of a batch if and only if each
    configuration has the pool that the other one sends the service to. -/
theorem reload_resolves (x : Xxh3) (old new : LbConfig) (old_accepted : Validator.Accepted old)
    (new_accepted : Validator.Accepted new) (n : Node) (applied : Applied x old n) (events : List Event)
    (quiet : ∀ event ∈ events, Quiet event)
    (able : Able new (events.foldl (Node.step x) n).controller.health_status) (input : PacketBuf)
    (first : is_non_first_fragment input.as_slice = false) (pkt_meta : PacketMeta)
    (parsed : PacketMeta.from_ipv4_bytes input.as_slice = some pkt_meta)
    (declared : Declares old pkt_meta.dst_ip pkt_meta.protocol pkt_meta.dst_port)
    (declared' : Declares new pkt_meta.dst_ip pkt_meta.protocol pkt_meta.dst_port) :
    (∀ schedule, Interleaves (reload new) load schedule →
      (resolve (schedule.foldl (Node.step x) (events.foldl (Node.step x) n)).shared input).isSome) ↔
    ∀ id, (matched_pool (build_vip_matcher old) input = some id → HasPool new id) ∧
      (matched_pool (build_vip_matcher new) input = some id → HasPool old id) := by
  obtain ⟨matcher,_,tables⟩ := applied.serves.run quiet
  generalize events.foldl (Node.step x) n = n at able matcher tables ⊢
  obtain ⟨old_id,old_matched,old_known⟩ := matched_service old_accepted parsed declared
  obtain ⟨new_id,new_matched,new_known⟩ := matched_service new_accepted parsed declared'
  have tables' := mem_apply_config (x := x) (c := n.controller) able
  have now_matched : matched_pool n.vip_matcher input = some old_id := by rw [matcher,old_matched]
  have resolves : ∀ (shared : Shared) (id : BackendPoolId), matched_pool shared.vip_matcher input = some id →
      id ∈ shared.lookup_tables → (resolve shared input).isSome :=
    fun _ id matched known => (RewriterThread.resolve_isSome first).mpr ⟨id,matched,known⟩
  constructor
  · intro all id
    -- The old matcher with the new tables, and the new matcher with the old tables.
    have old_new := (RewriterThread.resolve_isSome first).mp
      (all [.load_matcher,.store_matcher new,.control (.apply_config new),.load_tables]
        (.right _ (.left _ (.left _ (.right _ .nil)))))
    have new_old := (RewriterThread.resolve_isSome first).mp
      (all [.store_matcher new,.load_matcher,.load_tables,.control (.apply_config new)]
        (.left _ (.right _ (.right _ (.left _ .nil)))))
    obtain ⟨id',matched',known'⟩ := old_new
    obtain ⟨id'',matched'',known''⟩ := new_old
    cases now_matched.symm.trans matched'
    cases new_matched.symm.trans matched''
    constructor
    · intro matched
      cases old_matched.symm.trans matched
      exact (tables' _).mp known'
    · intro matched
      cases new_matched.symm.trans matched
      exact (tables _).mp known''
  · intro both schedule interleaved
    have old_old := (tables old_id).mpr old_known
    have new_new := (tables' new_id).mpr new_known
    have old_new := (tables' old_id).mpr ((both old_id).1 old_matched)
    have new_old := (tables new_id).mpr ((both new_id).2 new_matched)
    simp only [reload,load,interleaves_cons_cons,interleaves_nil_left,interleaves_nil_right] at interleaved
    rcases interleaved with ⟨_,rfl,⟨_,rfl,rfl⟩ | ⟨_,rfl,⟨_,rfl,rfl⟩ | ⟨_,rfl,rfl⟩⟩⟩ |
      ⟨_,rfl,⟨_,rfl,⟨_,rfl,rfl⟩ | ⟨_,rfl,rfl⟩⟩ | ⟨_,rfl,rfl⟩⟩
    · exact resolves _ new_id new_matched new_new
    · exact resolves _ new_id new_matched new_new
    · exact resolves _ new_id new_matched new_old
    · exact resolves _ old_id now_matched old_new
    · exact resolves _ old_id now_matched old_old
    · exact resolves _ old_id now_matched old_old

/-- A reload that drains a backend drops nothing, not even between its two steps. -/
theorem reload_resolves_drain :
    (resolve ([.load_matcher,.store_matcher (pair true),.control (.apply_config (pair true)),.load_tables].foldl
      (Node.step hashedPair) (.start hashedPair (some (pair false)) ⟨2,Nat.prime_two⟩ idle)).shared
      (segment 40000 40 [])).isSome := by
  have torn : Interleaves (reload (pair true)) load
      [.load_matcher,.store_matcher (pair true),.control (.apply_config (pair true)),.load_tables] :=
    .right _ (.left _ (.left _ (.right _ .nil)))
  refine (reload_resolves hashedPair (pair false) (pair true) (by decide) (by decide) _ (start_applied (by decide) idle)
    [] (by simp) (by decide) (segment 40000 40 []) (by decide) { flowFrom 40000 with tcp_flags := some ⟨0x10⟩ }
    (by decide) ?_ ?_).mpr (fun id => ⟨fun matched => ?_,fun matched => ?_⟩) _ torn
  · exact ⟨_,List.mem_cons_self,_,List.mem_cons_self,rfl,rfl,rfl⟩
  · exact ⟨_,List.mem_cons_self,_,List.mem_cons_self,rfl,rfl,rfl⟩
  · cases (show _ = some (⟨"pool"⟩ : BackendPoolId) by decide).symm.trans matched
    exact ⟨_,List.mem_cons_self,rfl⟩
  · cases (show _ = some (⟨"pool"⟩ : BackendPoolId) by decide).symm.trans matched
    exact ⟨_,List.mem_cons_self,rfl⟩

/-- One service, whose pool has the given name. -/
private def named (pool : String) : LbConfig where
  vips := [⟨⟨"web"⟩,.V4 ⟨188,184,100,10⟩,[⟨.Tcp,443,pool⟩]⟩]
  pools := [⟨⟨pool⟩,[⟨.V4 ⟨10,0,0,1⟩,443,1,false⟩,⟨.V4 ⟨10,0,0,2⟩,443,1,false⟩]⟩]

/-- The pool of a service is renamed. A batch that has loaded the old matcher
    does not find the old pool in the new tables. -/
theorem renamed_pool_drops_packets :
    ¬ ∀ (x : Xxh3) (old new : LbConfig), Validator.Accepted old → Validator.Accepted new → ∀ n, Applied x old n →
      ∀ events : List Event, (∀ event ∈ events, Quiet event) →
      Able new (events.foldl (Node.step x) n).controller.health_status →
      ∀ input, is_non_first_fragment input.as_slice = false →
      ∀ pkt_meta, PacketMeta.from_ipv4_bytes input.as_slice = some pkt_meta →
      Declares old pkt_meta.dst_ip pkt_meta.protocol pkt_meta.dst_port →
      Declares new pkt_meta.dst_ip pkt_meta.protocol pkt_meta.dst_port →
      ∀ schedule, Interleaves (reload new) load schedule →
        (resolve (schedule.foldl (Node.step x) (events.foldl (Node.step x) n)).shared input).isSome := by
  intro resolves
  have found := resolves hashedPair (named "blue") (named "green") (by decide) (by decide)
    (.start hashedPair (some (named "blue")) ⟨2,Nat.prime_two⟩ idle) (start_applied (by decide) idle) [] (by simp)
    (by decide) (segment 40000 40 []) (by decide) { flowFrom 40000 with tcp_flags := some ⟨0x10⟩ } (by decide)
    ⟨_,List.mem_cons_self,_,List.mem_cons_self,rfl,rfl,rfl⟩ ⟨_,List.mem_cons_self,_,List.mem_cons_self,rfl,rfl,rfl⟩
    [.load_matcher,.store_matcher (named "green"),.control (.apply_config (named "green")),.load_tables]
    (.right _ (.left _ (.left _ (.right _ .nil))))
  exact absurd found (by decide +kernel)

end Lb.System
