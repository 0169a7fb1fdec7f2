import Lb.Serde
import Lb.AddrText
import Lb.Durations
import Lb.Watcher

/-!
# The configuration file and its cache

The configuration as it is in the file, with what only people read. A configuration that
is applied is written to a cache, from which it is read like from the file.
-/
namespace Lb.Cache
open Lb.Addr Lb.Types Lb.Time Lb.Durations Lb.Serde

structure HealthCheckConfig where
  interval : Duration
  timeout : Duration
  healthy_threshold : UInt32
  unhealthy_threshold : UInt32
deriving DecidableEq

/-- A pool in the file. -/
structure FilePool where
  id : BackendPoolId
  backends : List Backend
  health_check : Option HealthCheckConfig
deriving DecidableEq

/-- A VIP in the file. -/
structure FileVip where
  id : VipId
  address : IpAddr
  services : List VipService
  owner : String
  description : String
deriving DecidableEq

structure FileConfig where
  vips : List FileVip
  pools : List FilePool
deriving DecidableEq

/-- What of the file the node works with. -/
def FileConfig.to_config (config : FileConfig) : LbConfig where
  vips := config.vips.map fun vip => ⟨vip.id,vip.address,vip.services⟩
  pools := config.pools.map fun pool => ⟨pool.id,pool.backends⟩

/-! ### Codecs -/

def ip_addr : Codec IpAddr :=
  .text IpAddr.fmt IpAddr.from_str (fun _ => True) (fun _ => trivial) fun {ip} _ => from_str_fmt ip

def deserialize_duration (s : List Char) : Option Duration :=
  match parse_duration s with
  | .ok d => some d
  | .error _ => none

theorem deserialize_duration_counted {s : List Char} {d : Duration} (read : deserialize_duration s = some d) :
    Counted d := by
  unfold deserialize_duration at read
  cases parsed : parse_duration s with
  | ok d' =>
    rw [parsed] at read
    cases read
    exact parse_duration_counted parsed
  | error e =>
    rw [parsed] at read
    cases read

def duration : Codec Duration :=
  .text serialize_duration deserialize_duration Counted deserialize_duration_counted fun counted => by
    rw [deserialize_duration,counted_round_trip counted]

def pool_id : Codec BackendPoolId := Codec.string.map ⟨.mk,BackendPoolId.id,fun _ => rfl,fun _ => rfl⟩
def vip_id : Codec VipId := Codec.string.map ⟨.mk,VipId.id,fun _ => rfl,fun _ => rfl⟩

def protocol_name : Protocol → String
  | .Tcp => "Tcp"
  | .Udp => "Udp"
def protocol : Codec Protocol :=
  .enum protocol_name [.Tcp,.Udp] fun protocol => by cases protocol <;> rfl

def default_weight : UInt32 := 1
def default_healthy_threshold : UInt32 := 2
def default_unhealthy_threshold : UInt32 := 3

def backend_fields : Fields (IpAddr × UInt16 × UInt32 × Bool × Unit) :=
  .cons (.required "ip" ip_addr) <|
  .cons (.required "port" .u16) <|
  .cons (.defaulted "weight" .u32 default_weight trivial) <|
  .cons (.defaulted "drain" .bool false trivial) .nil
def backend : Codec Backend := (Codec.struct false backend_fields (by decide)).map
  ⟨fun (ip,port,weight,drain,_) => ⟨ip,port,weight,drain⟩,fun b => (b.ip,b.port,b.weight,b.drain,()),
    fun _ => rfl,fun _ => rfl⟩

def health_check_fields : Fields (Duration × Duration × UInt32 × UInt32 × Unit) :=
  .cons (.required "interval" duration) <|
  .cons (.required "timeout" duration) <|
  .cons (.defaulted "healthy_threshold" .u32 default_healthy_threshold trivial) <|
  .cons (.defaulted "unhealthy_threshold" .u32 default_unhealthy_threshold trivial) .nil
def health_check : Codec HealthCheckConfig := (Codec.struct true health_check_fields (by decide)).map
  ⟨fun (interval,timeout,healthy,unhealthy,_) => ⟨interval,timeout,healthy,unhealthy⟩,
    fun h => (h.interval,h.timeout,h.healthy_threshold,h.unhealthy_threshold,()),fun _ => rfl,fun _ => rfl⟩

def pool_fields : Fields (BackendPoolId × List Backend × Option HealthCheckConfig × Unit) :=
  .cons (.required "id" pool_id) <|
  .cons (.required "backends" backend.list) <|
  .cons (.optional "health_check" health_check fun _ => Value.noConfusion) .nil
def backend_pool : Codec FilePool := (Codec.struct false pool_fields (by decide)).map
  ⟨fun (id,backends,health_check,_) => ⟨id,backends,health_check⟩,fun p => (p.id,p.backends,p.health_check,()),
    fun _ => rfl,fun _ => rfl⟩

def service_fields : Fields (Protocol × UInt16 × String × Unit) :=
  .cons (.required "protocol" protocol) <|
  .cons (.required "port" .u16) <|
  .cons (.required "backend_pool" .string) .nil
def vip_service : Codec VipService := (Codec.struct false service_fields (by decide)).map
  ⟨fun (protocol,port,pool,_) => ⟨protocol,port,pool⟩,fun s => (s.protocol,s.port,s.backend_pool,()),
    fun _ => rfl,fun _ => rfl⟩

def vip_fields : Fields (VipId × IpAddr × List VipService × String × String × Unit) :=
  .cons (.required "id" vip_id) <|
  .cons (.required "address" ip_addr) <|
  .cons (.required "services" vip_service.list) <|
  .cons (.required "owner" .string) <|
  .cons (.required "description" .string) .nil
def vip : Codec FileVip := (Codec.struct false vip_fields (by decide)).map
  ⟨fun (id,address,services,owner,description,_) => ⟨id,address,services,owner,description⟩,
    fun v => (v.id,v.address,v.services,v.owner,v.description,()),fun _ => rfl,fun _ => rfl⟩

def config_fields : Fields (List FileVip × List FilePool × Unit) :=
  .cons (.required "vips" vip.list) <|
  .cons (.required "pools" backend_pool.list) .nil
def lb_config : Codec FileConfig := (Codec.struct false config_fields (by decide)).map
  ⟨fun (vips,pools,_) => ⟨vips,pools⟩,fun c => (c.vips,c.pools,()),fun _ => rfl,fun _ => rfl⟩

/-! ### Files -/

section
variable {Text : Type} (parse : Text → Option Value) (print : Value → Text)

/-- The file is read and parsed; `none` is a file that cannot be read. -/
def load_from_file (contents : Option Text) : Option FileConfig :=
  contents.bind fun text => (parse text).bind lb_config.deserialize

/-- What is written to the cache. -/
def save_cache (config : FileConfig) : Text := print (lb_config.serialize config)
def load_cache (contents : Option Text) : Option FileConfig :=
  contents.bind fun text => (parse text).bind lb_config.deserialize

/-- What the watcher reads. -/
def from_str (text : Text) : Except Unit LbConfig :=
  match (parse text).bind lb_config.deserialize with
  | some config => .ok config.to_config
  | none => .error ()

end

/-! ### There and back -/

/-- The intervals and the timeouts are counts of a unit. -/
def Written (config : FileConfig) : Prop :=
  ∀ pool ∈ config.pools, ∀ check ∈ pool.health_check, Counted check.interval ∧ Counted check.timeout

theorem backend_valid (b : Backend) : backend.Valid b := ⟨trivial,trivial,trivial,trivial,trivial⟩
theorem vip_valid (v : FileVip) : vip.Valid v :=
  ⟨trivial,trivial,fun _ _ => ⟨trivial,trivial,trivial,trivial⟩,trivial,trivial,trivial⟩

theorem pool_valid_iff {pool : FilePool} :
    backend_pool.Valid pool ↔ ∀ check ∈ pool.health_check, Counted check.interval ∧ Counted check.timeout := by
  constructor
  · rintro ⟨_,_,checks,_⟩ check inside
    obtain ⟨interval,timeout,_⟩ := checks check inside
    exact ⟨interval,timeout⟩
  · intro counted
    refine ⟨trivial,fun b _ => backend_valid b,fun check inside => ?_,trivial⟩
    obtain ⟨interval,timeout⟩ := counted check inside
    exact ⟨interval,timeout,trivial,trivial,trivial⟩

theorem lb_config_valid_iff {config : FileConfig} : lb_config.Valid config ↔ Written config := by
  constructor
  · rintro ⟨_,pools,_⟩ pool listed
    exact pool_valid_iff.mp (pools pool listed)
  · intro written
    exact ⟨fun v _ => vip_valid v,fun pool listed => pool_valid_iff.mpr (written pool listed),trivial⟩

/-- What is read back is what was written, exactly if it can be written. -/
theorem deserialize_serialize_iff {config : FileConfig} :
    lb_config.deserialize (lb_config.serialize config) = some config ↔ Written config := by
  rw [← lb_config_valid_iff]
  exact ⟨lb_config.yields,lb_config.round_trip⟩

/-- A configuration is read from the cache as it was written there if and only if its
    durations are counts of a unit. Each one that is read from a file is, and the watcher
    takes the cache for what it takes that file for. -/
theorem cache_round_trip {Text : Type} (parse : Text → Option Value) (print : Value → Text) (config : FileConfig)
    (parses : parse (print (lb_config.serialize config)) = some (lb_config.serialize config)) :
    (load_cache parse (some (save_cache print config)) = some config ↔ Written config) ∧
    ∀ contents, load_from_file parse contents = some config →
      load_cache parse (some (save_cache print config)) = some config ∧
      Watcher.try_reload (from_str parse) (some (save_cache print config)) =
        Watcher.try_reload (from_str parse) contents := by
  have cached : load_cache parse (some (save_cache print config)) =
      lb_config.deserialize (lb_config.serialize config) := by
    rw [load_cache,Option.bind_some,save_cache,parses,Option.bind_some]
  rw [cached]
  refine ⟨deserialize_serialize_iff,fun contents loaded => ?_⟩
  obtain ⟨text,rfl,read⟩ := Option.bind_eq_some_iff.mp loaded
  obtain ⟨v,_,deserialized⟩ := Option.bind_eq_some_iff.mp read
  have back := lb_config.round_trip (lb_config.yields deserialized)
  refine ⟨back,?_⟩
  have same : from_str parse (save_cache print config) = from_str parse text := by
    rw [from_str,from_str,read,save_cache,parses,Option.bind_some,back]
  rw [Watcher.try_reload,Watcher.try_reload,Watcher.load_from_file,Watcher.load_from_file,same]

private def compact : String :=
  "\x7b\"vips\":[],\"pools\":[\x7b\"id\":\"web\",\"backends\":[],\"health_check\":\x7b\"timeout\":\"2s\"," ++
    "\"interval\":\"5000ms\"\x7d\x7d]\x7d"
private def pretty : String :=
  "\x7b\n  \"vips\": [],\n  \"pools\": [\n    \x7b\n      \"id\": \"web\",\n      \"backends\": [],\n" ++
    "      \"health_check\": \x7b\n        \"interval\": \"5s\",\n        \"timeout\": \"2s\",\n" ++
    "        \"healthy_threshold\": 2,\n        \"unhealthy_threshold\": 3\n      \x7d\n    \x7d\n  ]\n\x7d"
private def checked_pool : FileConfig := ⟨[],[⟨⟨"web"⟩,[],some ⟨.from_secs 5,.from_secs 2,2,3⟩⟩]⟩
/-- The two texts, parsed. -/
private def two_texts (text : String) : Option Value :=
  if text = compact then
    some (.object [("vips",.array []),("pools",.array [.object [("id",.string "web"),("backends",.array []),
      ("health_check",.object [("timeout",.string "2s"),("interval",.string "5000ms")])]])])
  else if text = pretty then some (lb_config.serialize checked_pool)
  else none

/-- The thresholds have their defaults in the cache, and an interval its shortest form. -/
theorem cache_round_trip_defaults :
    Watcher.try_reload (from_str two_texts) (some (save_cache (fun _ => pretty) checked_pool)) =
      Watcher.try_reload (from_str two_texts) (some compact) :=
  ((cache_round_trip two_texts (fun _ => pretty) checked_pool
    (by rw [two_texts,if_neg (by decide +kernel),if_pos rfl])).2 (some compact) (by decide +kernel)).2

end Lb.Cache
