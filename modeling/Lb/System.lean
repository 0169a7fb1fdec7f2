import Lb.Rewriter
import Lb.Validator
import Lb.Rebuilds

/-!
# The node

A controller and a rewriter that share the VIP matcher, the lookup tables and
the health of the backends. A reload of the configuration stores a new matcher
and then has the controller apply the configuration; a batch loads the matcher
and then the tables.
-/
namespace Lb.System
open Lb.Addr Lb.Types Lb.Buffer Lb.Maglev Lb.Applier Lb.Vips Lb.Rewriter Lb.Orchestrator

structure Node where
  controller : Controller
  vip_matcher : VipMatcher
  rewriter : RewriterThread
  loaded_matcher : VipMatcher
  loaded_tables : LookupTables

section
variable (x : Xxh3)

/-- What is shared at boot: the tables of the pools, with all their backends, and
    the matcher. -/
def apply_lb_config (config : LbConfig) (m : TableSize) : LookupTables × VipMatcher :=
  (config.pools.foldl (fun tables pool =>
    if pool.backends.isEmpty then tables
    else
      match LookupTable.build x pool.backends m with
      | .ok table => tables.insert pool.id table
      | .error _ => tables) ∅,build_vip_matcher config)

/-- The controller and the matcher once the initial configuration, if there is
    one, has been applied. -/
def boot (initial : Option LbConfig) (m : TableSize) : Controller × VipMatcher :=
  match initial with
  | none => ((Controller.new ∅ ∅ m).with_bgp,.new)
  | some config =>
    let (lookup_tables,vip_matcher) := apply_lb_config x config m
    (((Controller.new lookup_tables ∅ m).with_bgp.apply_config x config).1,vip_matcher)

def Node.start (initial : Option LbConfig) (m : TableSize) (rewriter : RewriterThread) : Node where
  controller := (boot x initial m).1
  vip_matcher := (boot x initial m).2
  rewriter := rewriter
  loaded_matcher := .new
  loaded_tables := ∅

/-- What happens on a node: a call to the controller, the store of a new matcher,
    the two loads of a batch, and one of its packets. -/
inductive Event
  | control (op : Op)
  | store_matcher (config : LbConfig)
  | load_matcher
  | load_tables
  | process (input : PacketBuf) (now : Nat)

/-- What a packet of the current batch finds. -/
def Node.shared (n : Node) : Shared where
  vip_matcher := n.loaded_matcher
  lookup_tables := n.loaded_tables
  health_status := n.controller.health_status

def Node.step (n : Node) : Event → Node
  | .control op => { n with controller := (n.controller.perform x op).1 }
  | .store_matcher config => { n with vip_matcher := build_vip_matcher config }
  | .load_matcher => { n with loaded_matcher := n.vip_matcher }
  | .load_tables => { n with loaded_tables := n.controller.lookup_tables }
  | .process input now => { n with rewriter := (n.rewriter.process_one x n.shared input now).1 }

end

/-- The reload of a configuration, by the apply-task. -/
def reload (config : LbConfig) : List Event := [.store_matcher config,.control (.apply_config config)]
/-- The loads with which a batch begins. -/
def load : List Event := [.load_matcher,.load_tables]

end Lb.System
