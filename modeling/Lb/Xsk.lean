import Lb.Buffer
import Lb.Census
import Lb.Runs
import Mathlib.Data.List.Range

/-!
# The AF_XDP socket

Packets go through frames of a memory area that the socket shares with the
kernel. Half of the frames are for receiving, and the others are free, or on
their way through the rings of the transmitting side.
-/
namespace Lb.Xsk
open Lb.Buffer Lb.Census

structure AfXdpConfig where
  num_frames : Nat
  frame_size : Nat
  ring_size : Nat
  words : num_frames < 2 ^ 32 ∧ frame_size < 2 ^ 32 ∧ ring_size < 2 ^ 32

structure XdpDesc where
  addr : Nat
  len : Nat
deriving DecidableEq

/-- The socket, with its rings as queues, the memory area, and the frames that the
    kernel is transmitting. -/
structure AfXdpIo where
  rx : List XdpDesc
  fill : List Nat
  tx : List XdpDesc
  kernel : List Nat
  completion : List Nat
  umem : Nat → UInt8
  free_frames : List Nat
  capacity : Nat
  frame_size : Nat
  ring_size : Nat

def is_power_of_two (n : Nat) : Bool := 2 ^ n.log2 == n

/-- A ring takes as many entries as it has room for. -/
def insert {A : Type*} (ring_size : Nat) (ring entries : List A) : List A :=
  ring ++ entries.take (ring_size - ring.length)

namespace AfXdpIo

/-- The checks of the configuration, and the socket that they let through. The free
    list has room for the frames, and maybe some more. -/
def new (config : AfXdpConfig) (umem : Nat → UInt8) (more : Nat) : Except String AfXdpIo :=
  if config.frame_size < PACKET_BUF_SIZE then
    .error ("frame_size (" ++ toString config.frame_size ++ ") must be >= PACKET_BUF_SIZE (" ++
      toString PACKET_BUF_SIZE ++ ")")
  else if ¬ is_power_of_two config.num_frames then .error "num_frames must be a power of two"
  else if config.num_frames < 2 * config.ring_size then
    .error "num_frames must be >= 2 * ring_size to fit RX + TX pools"
  else
    let num_rx_frames := config.ring_size
    .ok {
      rx := []
      fill := insert config.ring_size [] ((List.range num_rx_frames).map (· * config.frame_size))
      tx := []
      kernel := []
      completion := []
      umem
      free_frames := List.range' num_rx_frames (config.num_frames - num_rx_frames)
      capacity := config.num_frames - num_rx_frames + more
      frame_size := config.frame_size
      ring_size := config.ring_size }

variable (io : AfXdpIo)

/-- A descriptor may point into the middle of a frame. -/
def addr_to_frame_idx (addr : Nat) : Nat := addr / io.frame_size % 2 ^ 32
def frame_idx_to_addr (idx : Nat) : Nat := idx * io.frame_size

def umem_read (addr len : Nat) : List UInt8 := (List.range len).map fun i => io.umem (addr + i)
def umem_write_for_tx (idx : Nat) (data : List UInt8) : AfXdpIo × XdpDesc :=
  let addr := io.frame_idx_to_addr idx
  let copy_len := min data.length io.frame_size
  ({ io with umem := fun a => if addr ≤ a ∧ a < addr + copy_len then data.getD (a - addr) 0 else io.umem a },
    { addr, len := copy_len })

def drain_completions : AfXdpIo :=
  let max := io.capacity - io.free_frames.length
  if max = 0 then io
  else
    { io with
      free_frames := io.free_frames ++ (io.completion.take max).map io.addr_to_frame_idx
      completion := io.completion.drop max }

/-- Up to `buf.length` packets from the RX ring, whose frames go back to the FILL
    ring. -/
def recv_batch (buf : List PacketBuf) : AfXdpIo × List PacketBuf × Nat :=
  let consumed := io.rx.take buf.length
  let received := List.zipWith (fun pkt desc => pkt.write_from (io.umem_read desc.addr desc.len)) buf consumed
  let aligned := consumed.map fun desc => desc.addr / io.frame_size * io.frame_size
  ({ io with rx := io.rx.drop buf.length, fill := insert io.ring_size io.fill aligned },
    received ++ buf.drop consumed.length,consumed.length)

/-- The loop over the packets that takes a free frame for each of them. -/
def build_descs : AfXdpIo → List PacketBuf → AfXdpIo × List XdpDesc
  | io, [] => (io,[])
  | io, pkt :: rest =>
    match io.free_frames with
    | [] => (io,[])
    | idx :: free_frames =>
      let (io,desc) := { io with free_frames }.umem_write_for_tx idx pkt.as_slice
      let (io,descs) := build_descs io rest
      (io,desc :: descs)

/-- How many packets were put on the TX ring is the second part of the result. -/
def send_batch (buf : List PacketBuf) : AfXdpIo × Nat :=
  if buf = [] then (io,0)
  else
    let io := io.drain_completions
    let max := min buf.length io.free_frames.length
    if max = 0 then (io,0)
    else
      let (io,descs) := io.build_descs (buf.take max)
      ({ io with tx := insert io.ring_size io.tx descs },min descs.length (io.ring_size - io.tx.length))

end AfXdpIo

/-- The calls of the socket's owner, and what the kernel does. -/
inductive Event
  | send_batch (buf : List PacketBuf)
  | recv_batch (buf : List PacketBuf)
  | transmit
  | complete (i : Nat)
  | deliver (headroom : Nat) (frame : List UInt8)

namespace AfXdpIo

/-- The kernel takes the first descriptor of the TX ring, puts one of the frames
    that it has transmitted on the COMPLETION ring, or fills the first frame of the
    FILL ring. -/
def step (io : AfXdpIo) : Event → AfXdpIo
  | .send_batch buf => (io.send_batch buf).1
  | .recv_batch buf => (io.recv_batch buf).1
  | .transmit =>
    match io.tx with
    | [] => io
    | desc :: tx => { io with tx, kernel := io.kernel ++ [desc.addr] }
  | .complete i =>
    match io.kernel[i]? with
    | none => io
    | some addr => { io with kernel := io.kernel.eraseIdx i, completion := io.completion ++ [addr] }
  | .deliver headroom frame =>
    match io.fill with
    | [] => io
    | addr :: fill =>
      { io with
        fill
        umem := fun a =>
          if addr + headroom ≤ a ∧ a < addr + headroom + frame.length then frame.getD (a - (addr + headroom)) 0
          else io.umem a
        rx := io.rx ++ [⟨addr + headroom,frame.length⟩] }

end AfXdpIo

/-! ### Where the frames are -/

/-- Where a frame of the transmitting side can be. -/
inductive Place
  | free
  | transmitting
  | completed
deriving DecidableEq

instance : Fintype Place := ⟨{.free,.transmitting,.completed},fun place => by cases place <;> simp⟩

namespace AfXdpIo
variable {io : AfXdpIo} {config : AfXdpConfig}

def holds (io : AfXdpIo) : Place → List Nat
  | .free => io.free_frames
  | .transmitting => (io.tx.map XdpDesc.addr ++ io.kernel).map io.addr_to_frame_idx
  | .completed => io.completion.map io.addr_to_frame_idx

theorem census_places (holds : Place → List Nat) :
    census holds = (holds .free : Multiset Nat) + ((holds .transmitting : Multiset Nat) + holds .completed) := by
  show ∑ place ∈ ({.free,.transmitting,.completed} : Finset Place), (holds place : Multiset Nat) = _
  rw [Finset.sum_insert (by decide),Finset.sum_insert (by decide),Finset.sum_singleton]

/-- Every frame of the transmitting side is in exactly one place. -/
def Conserved (config : AfXdpConfig) (io : AfXdpIo) : Prop :=
  ∀ idx, config.ring_size ≤ idx → idx < config.num_frames → ∃! place, idx ∈ io.holds place

/-- The places hold the frames of the transmitting side, and nothing else. -/
structure Accounted (config : AfXdpConfig) (io : AfXdpIo) : Prop where
  frame_size : io.frame_size = config.frame_size
  ring_size : io.ring_size = config.ring_size
  all : census io.holds = (List.range' config.ring_size (config.num_frames - config.ring_size) : Multiset Nat)

theorem Accounted.conserved (accounted : Accounted config io) : Conserved config io := by
  intro idx first last
  refine place_existsUnique ?_ ?_
  · rw [accounted.all]
    exact Multiset.coe_nodup.mpr List.nodup_range'
  · rw [accounted.all,Multiset.mem_coe,List.mem_range'_1]
    omega

/-- A frame on the free list is one of the transmitting side. -/
theorem Accounted.word (accounted : Accounted config io) {idx : Nat} (free : idx ∈ io.free_frames) : idx < 2 ^ 32 := by
  have present : idx ∈ census io.holds := mem_census.mpr ⟨.free,free⟩
  rw [accounted.all,Multiset.mem_coe,List.mem_range'_1] at present
  have := config.words
  omega

/-- The frame at its own address. -/
theorem addr_to_frame_idx_eq (some_size : 0 < io.frame_size) {idx : Nat} (word : idx < 2 ^ 32) :
    io.addr_to_frame_idx (io.frame_idx_to_addr idx) = idx := by
  rw [addr_to_frame_idx,frame_idx_to_addr,Nat.mul_div_cancel _ some_size,Nat.mod_eq_of_lt word]

/-! ### What the calls do -/

theorem build_descs_eq (buf : List PacketBuf) (enough : buf.length ≤ io.free_frames.length) :
    ∃ umem, (io.build_descs buf).1 = { io with free_frames := io.free_frames.drop buf.length, umem } ∧
      (io.build_descs buf).2.map XdpDesc.addr = (io.free_frames.take buf.length).map io.frame_idx_to_addr := by
  induction buf generalizing io with
  | nil => exact ⟨io.umem,rfl,rfl⟩
  | cons pkt buf ih =>
    cases frames : io.free_frames with
    | nil => simp [frames] at enough
    | cons idx free_frames =>
      rw [frames,List.length_cons,List.length_cons] at enough
      obtain ⟨umem,after,addrs⟩ := @ih ({ io with free_frames }.umem_write_for_tx idx pkt.as_slice).1
        (Nat.le_of_succ_le_succ enough)
      rw [build_descs,frames]
      exact ⟨umem,after,congrArg (io.frame_idx_to_addr idx :: ·) addrs⟩

/-- The completed frames are free again, as many as there is room for. -/
theorem drain_completions_eq (io : AfXdpIo) : ∃ count, io.drain_completions = { io with
    free_frames := io.free_frames ++ (io.completion.take count).map io.addr_to_frame_idx
    completion := io.completion.drop count } := by
  rw [drain_completions]
  split_ifs with full
  · exact ⟨0,by simp⟩
  · exact ⟨_,rfl⟩

/-- A free frame is taken for each packet that there is one for, and the TX ring
    takes the descriptors that it has room for. -/
theorem send_batch_eq (io : AfXdpIo) {buf : List PacketBuf} (some_packet : buf ≠ []) :
    ∃ umem descs, descs.map XdpDesc.addr =
        (io.drain_completions.free_frames.take buf.length).map io.drain_completions.frame_idx_to_addr ∧
      (io.send_batch buf).1 = { io.drain_completions with
        free_frames := io.drain_completions.free_frames.drop buf.length
        tx := insert io.drain_completions.ring_size io.drain_completions.tx descs
        umem } := by
  rw [send_batch,if_neg some_packet]
  dsimp only
  generalize io.drain_completions = drained_io
  by_cases starved : min buf.length drained_io.free_frames.length = 0
  · have none_free : drained_io.free_frames = [] := by
      have := List.length_pos_of_ne_nil some_packet
      exact List.eq_nil_of_length_eq_zero (by omega)
    rw [if_pos starved]
    have kept : drained_io.free_frames.drop buf.length = drained_io.free_frames := by rw [none_free,List.drop_nil]
    refine ⟨drained_io.umem,[],by simp [none_free],?_⟩
    rw [kept,insert,List.take_nil,List.append_nil]
  · rw [if_neg starved]
    have taken : (buf.take (min buf.length drained_io.free_frames.length)).length =
        min buf.length drained_io.free_frames.length := by
      rw [List.length_take]
      omega
    obtain ⟨umem,after,addrs⟩ := @build_descs_eq drained_io (buf.take (min buf.length drained_io.free_frames.length))
      (by omega)
    rw [taken] at after addrs
    have whole : drained_io.free_frames.take (min buf.length drained_io.free_frames.length) =
        drained_io.free_frames.take buf.length := by
      rw [← List.take_take,List.take_length]
    have rest : drained_io.free_frames.drop (min buf.length drained_io.free_frames.length) =
        drained_io.free_frames.drop buf.length := by
      rcases Nat.le_total buf.length drained_io.free_frames.length with short | long
      · rw [Nat.min_eq_left short]
      · rw [Nat.min_eq_right long,List.drop_length,List.drop_of_length_le long]
    rw [whole] at addrs
    rw [rest] at after
    refine ⟨umem,_,addrs,?_⟩
    rw [after]

theorem Accounted.drain_completions (accounted : Accounted config io) : Accounted config io.drain_completions := by
  obtain ⟨count,same⟩ := drain_completions_eq io
  rw [same]
  refine ⟨accounted.frame_size,accounted.ring_size,Eq.trans ?_ accounted.all⟩
  refine census_move (a := .free) (b := .completed) (by decide) ?_ fun place apart apart' => ?_
  · show (io.free_frames ++ (io.completion.take count).map io.addr_to_frame_idx ++
      (io.completion.drop count).map io.addr_to_frame_idx).Perm (io.free_frames ++ io.completion.map io.addr_to_frame_idx)
    rw [List.append_assoc,← List.map_append,List.take_append_drop]
  · cases place with
    | free => exact absurd rfl apart
    | transmitting => rfl
    | completed => exact absurd rfl apart'

/-- With no more frames than the TX ring has room for, all descriptors are taken. -/
theorem Accounted.send_batch (accounted : Accounted config io) (some_size : 0 < config.frame_size)
    (fits : config.num_frames ≤ 2 * config.ring_size) (buf : List PacketBuf) :
    Accounted config (io.send_batch buf).1 := by
  by_cases empty : buf = []
  · rw [AfXdpIo.send_batch,if_pos empty]
    exact accounted
  · have drained := accounted.drain_completions
    obtain ⟨umem,descs,addrs,after⟩ := send_batch_eq io empty
    rw [after]
    generalize io.drain_completions = io at drained addrs ⊢
    have size := drained.frame_size
    have ring := drained.ring_size
    have total := @length_add_le _ _ _ io.holds _ .free .transmitting (by decide)
    rw [drained.all,Multiset.coe_card,List.length_range'] at total
    have taken : descs.length = min buf.length io.free_frames.length := by
      have lengths := congrArg List.length addrs
      rwa [List.length_map,List.length_map,List.length_take] at lengths
    have room : insert io.ring_size io.tx descs = io.tx ++ descs := by
      simp only [holds,List.length_map,List.length_append] at total
      rw [insert,List.take_of_length_le (by omega)]
    have own : descs.map (io.addr_to_frame_idx ∘ XdpDesc.addr) = io.free_frames.take buf.length := by
      rw [← List.map_map,addrs,List.map_map]
      refine (List.map_congr_left fun idx taken => ?_).trans (List.map_id _)
      exact addr_to_frame_idx_eq (by omega) (drained.word (List.mem_of_mem_take taken))
    rw [room]
    refine ⟨drained.frame_size,drained.ring_size,Eq.trans ?_ drained.all⟩
    refine census_move (a := .free) (b := .transmitting) (by decide) ?_ fun place apart apart' => ?_
    · show (io.free_frames.drop buf.length ++ ((io.tx ++ descs).map XdpDesc.addr ++ io.kernel).map
        io.addr_to_frame_idx).Perm (io.free_frames ++ (io.tx.map XdpDesc.addr ++ io.kernel).map io.addr_to_frame_idx)
      simp only [List.map_append,List.map_map,own]
      conv_rhs => rw [← List.take_append_drop buf.length io.free_frames]
      rw [List.perm_iff_count]
      intro idx
      simp only [List.count_append]
      omega
    · cases place with
      | free => exact absurd rfl apart
      | transmitting => exact absurd rfl apart'
      | completed => rfl

theorem Accounted.step (accounted : Accounted config io) (some_size : 0 < config.frame_size)
    (fits : config.num_frames ≤ 2 * config.ring_size) (e : Event) : Accounted config (io.step e) := by
  cases e with
  | send_batch buf => exact accounted.send_batch some_size fits buf
  | recv_batch buf =>
    refine ⟨accounted.frame_size,accounted.ring_size,Eq.trans (census_perm fun place => ?_) accounted.all⟩
    cases place <;> exact List.Perm.refl _
  | transmit =>
    rw [AfXdpIo.step]
    cases ring : io.tx with
    | nil => exact accounted
    | cons desc tx =>
      refine ⟨accounted.frame_size,accounted.ring_size,Eq.trans (census_perm fun place => ?_) accounted.all⟩
      cases place with
      | free | completed => exact List.Perm.refl _
      | transmitting =>
        show ((tx.map XdpDesc.addr ++ (io.kernel ++ [desc.addr])).map io.addr_to_frame_idx).Perm
          ((io.tx.map XdpDesc.addr ++ io.kernel).map io.addr_to_frame_idx)
        rw [ring,← List.append_assoc]
        exact (List.perm_append_singleton desc.addr _).map _
  | complete i =>
    rw [AfXdpIo.step]
    cases done_ : io.kernel[i]? with
    | none => exact accounted
    | some addr =>
      refine ⟨accounted.frame_size,accounted.ring_size,Eq.trans ?_ accounted.all⟩
      refine census_move (a := .transmitting) (b := .completed) (by decide) ?_ fun place apart apart' => ?_
      · show ((io.tx.map XdpDesc.addr ++ io.kernel.eraseIdx i).map io.addr_to_frame_idx ++
          (io.completion ++ [addr]).map io.addr_to_frame_idx).Perm
          ((io.tx.map XdpDesc.addr ++ io.kernel).map io.addr_to_frame_idx ++ io.completion.map io.addr_to_frame_idx)
        obtain ⟨inside,rfl⟩ := List.getElem?_eq_some_iff.mp done_
        have erased := ((List.getElem_cons_eraseIdx_perm inside).map io.addr_to_frame_idx)
        rw [List.perm_iff_count] at erased ⊢
        intro idx
        have counted := erased idx
        simp only [List.map_append,List.map_cons,List.map_nil,List.count_append,List.count_cons,List.count_nil] at counted ⊢
        omega
      · cases place with
        | free => rfl
        | transmitting => exact absurd rfl apart
        | completed => exact absurd rfl apart'
  | deliver headroom frame =>
    rw [AfXdpIo.step]
    cases io.fill with
    | nil => exact accounted
    | cons addr fill =>
      refine ⟨accounted.frame_size,accounted.ring_size,Eq.trans (census_perm fun place => ?_) accounted.all⟩
      cases place <;> exact List.Perm.refl _

/-! ### New sockets -/

/-- What a configuration that is accepted is like, and the socket made of it. -/
theorem new_eq_ok {umem : Nat → UInt8} {more : Nat} (accepted : AfXdpIo.new config umem more = .ok io) :
    0 < config.frame_size ∧ 2 * config.ring_size ≤ config.num_frames ∧ io.tx = [] ∧ io.kernel = [] ∧
      io.completion = [] ∧ io.free_frames = List.range' config.ring_size (config.num_frames - config.ring_size) ∧
      io.frame_size = config.frame_size ∧ io.ring_size = config.ring_size := by
  rw [new] at accepted
  split_ifs at accepted with small odd few
  cases accepted
  have size : PACKET_BUF_SIZE = 2048 := rfl
  exact ⟨by omega,by omega,rfl,rfl,rfl,rfl,rfl,rfl⟩

theorem new_accounted {umem : Nat → UInt8} {more : Nat} (accepted : AfXdpIo.new config umem more = .ok io) :
    Accounted config io := by
  obtain ⟨_,_,tx,kernel,completion,free,frame_size,ring_size⟩ := new_eq_ok accepted
  refine ⟨frame_size,ring_size,?_⟩
  rw [census_places]
  simp [holds,tx,kernel,completion,free]

/-- A batch larger than the TX ring loses a frame, if there are frames for it. -/
theorem overflow_loses {umem : Nat → UInt8} {more : Nat} (accepted : AfXdpIo.new config umem more = .ok io)
    (larger : 2 * config.ring_size < config.num_frames) :
    ¬ Conserved config (io.step (.send_batch (List.replicate (config.ring_size + 1) PacketBuf.new))) := by
  obtain ⟨some_size,_,tx,kernel,completion,free,size,ring⟩ := new_eq_ok accepted
  have drained : io.drain_completions = io := by
    obtain ⟨count,same⟩ := drain_completions_eq io
    rw [same,completion,List.take_nil,List.drop_nil,List.map_nil,List.append_nil,← completion]
  obtain ⟨umem,descs,addrs,after⟩ := @send_batch_eq io (List.replicate (config.ring_size + 1) PacketBuf.new) (by simp)
  have word := config.words
  have frames : io.free_frames = (List.range' config.ring_size config.ring_size ++ [2 * config.ring_size]) ++
      List.range' (2 * config.ring_size + 1) (config.num_frames - 2 * config.ring_size - 1) := by
    have last : [2 * config.ring_size] = List.range' (config.ring_size + config.ring_size) 1 := by
      rw [Nat.two_mul,List.range'_one]
    rw [free,last,List.range'_append_1,show 2 * config.ring_size + 1 = config.ring_size + (config.ring_size + 1) by omega,
      List.range'_append_1]
    congr 1
    omega
  have taken : (List.range' config.ring_size config.ring_size ++ [2 * config.ring_size]).length =
      config.ring_size + 1 := by
    simp
  rw [drained,List.length_replicate,frames] at addrs after
  rw [List.take_left' taken] at addrs
  rw [List.drop_left' taken] at after
  -- The ring has room for all descriptors but that of the last frame.
  have queued : (descs.take config.ring_size).map XdpDesc.addr =
      (List.range' config.ring_size config.ring_size).map io.frame_idx_to_addr := by
    rw [List.map_take,addrs,← List.map_take,List.take_left' List.length_range']
  have own : (List.range' config.ring_size config.ring_size).map (io.addr_to_frame_idx ∘ io.frame_idx_to_addr) =
      List.range' config.ring_size config.ring_size := by
    refine (List.map_congr_left fun idx inside => ?_).trans (List.map_id _)
    rw [List.mem_range'_1] at inside
    exact addr_to_frame_idx_eq (by omega) (by omega)
  intro conserved
  obtain ⟨place,here,_⟩ := conserved (2 * config.ring_size) (by omega) larger
  rw [step,after] at here
  cases place with
  | free =>
    have := List.mem_range'_1.mp here
    omega
  | transmitting =>
    change _ ∈ ((insert io.ring_size io.tx descs).map XdpDesc.addr ++ io.kernel).map io.addr_to_frame_idx at here
    rw [kernel,tx,ring,insert,List.nil_append,List.length_nil,Nat.sub_zero,List.append_nil,queued,List.map_map,own] at here
    have := List.mem_range'_1.mp here
    omega
  | completed =>
    rw [holds,completion] at here
    cases here

end AfXdpIo

/-- A socket keeps every frame of its transmitting side in every run if and only if
    there are no more frames than for two rings. -/
theorem frames_conserved_iff (config : AfXdpConfig) (umem : Nat → UInt8) (more : Nat) (io : AfXdpIo)
    (accepted : AfXdpIo.new config umem more = .ok io) :
    (∀ events : List Event, AfXdpIo.Conserved config (events.foldl AfXdpIo.step io)) ↔
      config.num_frames ≤ 2 * config.ring_size := by
  constructor
  · intro conserved
    by_contra larger
    exact AfXdpIo.overflow_loses accepted (by omega)
      (conserved [.send_batch (List.replicate (config.ring_size + 1) PacketBuf.new)])
  · intro fits events
    have some_size := (AfXdpIo.new_eq_ok accepted).1
    have accounted := Runs.invariant (AfXdpIo.Accounted config)
      (fun _ e accounted => accounted.step some_size fits e) (AfXdpIo.new_accounted accepted) events
    exact accounted.conserved

private def two_rings : AfXdpConfig := ⟨4,2048,2,by decide⟩
private def four_rings : AfXdpConfig := ⟨8,2048,2,by decide⟩

theorem frames_conserved_two_rings : ∃ io, AfXdpIo.new two_rings (fun _ => 0) 0 = .ok io ∧
    ((∀ events : List Event, AfXdpIo.Conserved two_rings (events.foldl AfXdpIo.step io)) ↔
      two_rings.num_frames ≤ 2 * two_rings.ring_size) :=
  ⟨_,rfl,frames_conserved_iff two_rings (fun _ => 0) 0 _ rfl⟩

/-- Of 8 frames, 6 are for transmitting, and a ring has room for 2: a batch of 3
    packets takes 3 frames, and the third is on no ring and not free. -/
theorem batch_loses_frame :
    ¬ ∀ (config : AfXdpConfig) (umem : Nat → UInt8) (more : Nat) (io : AfXdpIo), AfXdpIo.new config umem more = .ok io →
      ∀ events : List Event, AfXdpIo.Conserved config (events.foldl AfXdpIo.step io) := by
  intro conserved
  exact @AfXdpIo.overflow_loses _ four_rings (fun _ => 0) 0 rfl (by decide)
    (conserved four_rings (fun _ => 0) 0 _ rfl [.send_batch (List.replicate 3 PacketBuf.new)])

end Lb.Xsk
