import Lb.Xsk

/-!
# Packets through the socket

What the kernel has received comes out of `recv_batch` in order, and what
`send_batch` takes goes out in order. Packets lie in frames of their own while they
wait, so that no call and no step of the kernel changes them.
-/
namespace Lb.Xsk
open Lb.Buffer Lb.Census

/-- The kernel writes what it receives inside of one frame. -/
def Inside (config : AfXdpConfig) : Event → Prop
  | .deliver headroom frame => headroom < config.frame_size ∧ headroom + frame.length ≤ config.frame_size
  | _ => True

namespace AfXdpIo
variable (io : AfXdpIo)

/-- The bytes that a descriptor stands for. -/
def content (desc : XdpDesc) : List UInt8 := io.umem_read desc.addr desc.len

/-- What the kernel receives; it drops what there is no frame for. -/
def delivered : Event → List (List UInt8)
  | .deliver _ frame => if io.fill = [] then [] else [frame]
  | _ => []
/-- The packets that `recv_batch` returns. -/
def received : Event → List (List UInt8)
  | .recv_batch buf => ((io.recv_batch buf).2.1.take (io.recv_batch buf).2.2).map PacketBuf.as_slice
  | _ => []
/-- The packets that `send_batch` says it has sent. -/
def sent : Event → List (List UInt8)
  | .send_batch buf => (buf.take (io.send_batch buf).2).map PacketBuf.as_slice
  | _ => []
/-- What the kernel transmits. -/
def transmitted : Event → List (List UInt8)
  | .transmit => (io.tx.take 1).map io.content
  | _ => []

/-- The frames of the receiving side. -/
def rx_frames : List Nat := io.fill.map (· / io.frame_size) ++ io.rx.map (fun desc => desc.addr / io.frame_size)

/-! ### Memory -/

section
variable {io}

theorem umem_read_length (addr len : Nat) : (io.umem_read addr len).length = len := by simp [umem_read]

theorem umem_read_congr {io' : AfXdpIo} {addr len : Nat}
    (same : ∀ a, addr ≤ a → a < addr + len → io'.umem a = io.umem a) : io'.umem_read addr len = io.umem_read addr len := by
  refine List.map_congr_left fun i inside => same _ (Nat.le_add_right addr i) ?_
  have := List.mem_range.mp inside
  omega

/-- What is written is read back. -/
theorem umem_read_written {addr : Nat} {data : List UInt8}
    (written : ∀ a, addr ≤ a → a < addr + data.length → io.umem a = data.getD (a - addr) 0) :
    io.umem_read addr data.length = data := by
  refine List.ext_getElem (umem_read_length addr _) fun i inside inside' => ?_
  simp only [umem_read,List.getElem_map,List.getElem_range]
  rw [written _ (by omega) (by omega),Nat.add_sub_cancel_left,List.getD_eq_getElem?_getD,List.getElem?_eq_getElem inside']
  rfl

/-- The addresses of a frame. -/
theorem frame_of {size idx a : Nat} (some_size : 0 < size) (first : idx * size ≤ a) (last : a < (idx + 1) * size) :
    a / size = idx := by
  have below := (Nat.div_lt_iff_lt_mul some_size).mpr last
  have above := (Nat.le_div_iff_mul_le some_size).mpr first
  omega

end

/-! ### The layout -/

/-- A descriptor stands for bytes of one frame. -/
def Within (size : Nat) (desc : XdpDesc) : Prop := desc.addr + desc.len ≤ (desc.addr / size + 1) * size

/-- The address is that of a frame. -/
def Aligned (size addr : Nat) : Prop := addr = addr / size % 2 ^ 32 * size

/-- The frames of the receiving side are each on the FILL ring or the RX ring, those of
    the transmitting side are in one place at most, and descriptors stand for bytes of
    their own frame. -/
structure Layout (config : AfXdpConfig) (io : AfXdpIo) : Prop where
  frame_size : io.frame_size = config.frame_size
  ring_size : io.ring_size = config.ring_size
  rx_all : io.rx_frames.Perm (List.range config.ring_size)
  fill_aligned : ∀ addr ∈ io.fill, addr = addr / config.frame_size * config.frame_size
  rx_within : ∀ desc ∈ io.rx, Within config.frame_size desc
  tx_all : census io.holds ≤ (List.range' config.ring_size (config.num_frames - config.ring_size) : Multiset Nat)
  tx_aligned : ∀ desc ∈ io.tx, Aligned config.frame_size desc.addr ∧ desc.len ≤ config.frame_size
  kernel_aligned : ∀ addr ∈ io.kernel, Aligned config.frame_size addr

variable {io : AfXdpIo} {config : AfXdpConfig}

theorem Aligned.frame {size addr : Nat} (some_size : 0 < size) (aligned : Aligned size addr) :
    addr / size % 2 ^ 32 = addr / size := by
  rw [Aligned] at aligned
  conv_rhs => rw [aligned]
  rw [Nat.mul_div_cancel _ some_size]

/-- A descriptor with the address of a frame stands for bytes of that frame. -/
theorem Aligned.within {size : Nat} {desc : XdpDesc} (some_size : 0 < size) (aligned : Aligned size desc.addr)
    (fits : desc.len ≤ size) : Within size desc := by
  have own := aligned.frame some_size
  rw [Aligned,own] at aligned
  rw [Within,Nat.add_mul,one_mul,← aligned]
  omega

/-- A packet is not changed by what happens outside of its frame. -/
theorem content_congr {io' : AfXdpIo} {size : Nat} {desc : XdpDesc} (some_size : 0 < size) (within : Within size desc)
    (same : ∀ a, a / size = desc.addr / size → io'.umem a = io.umem a) : io'.content desc = io.content desc := by
  refine umem_read_congr fun a first last => same a (frame_of some_size ?_ ?_)
  · exact (Nat.div_mul_le_self desc.addr size).trans first
  · rw [Within] at within
    omega

/-! ### What is sent -/

/-- The frames that are taken hold the packets, and the memory is the same elsewhere. -/
theorem build_descs_content (size : PACKET_BUF_SIZE ≤ io.frame_size) (buf : List PacketBuf)
    (nodup : io.free_frames.Nodup) (enough : buf.length ≤ io.free_frames.length) :
    (io.build_descs buf).2.map (io.build_descs buf).1.content = buf.map PacketBuf.as_slice ∧
      (∀ desc ∈ (io.build_descs buf).2, desc.len ≤ io.frame_size) ∧
      ∀ a, a / io.frame_size ∉ io.free_frames.take buf.length → (io.build_descs buf).1.umem a = io.umem a := by
  induction buf generalizing io with
  | nil => exact ⟨rfl,by simp [build_descs],fun _ _ => rfl⟩
  | cons pkt buf ih =>
    cases frames : io.free_frames with
    | nil => simp [frames] at enough
    | cons idx free_frames =>
      rw [frames,List.length_cons,List.length_cons] at enough
      rw [frames,List.nodup_cons] at nodup
      have some_size : 0 < io.frame_size := by
        have : PACKET_BUF_SIZE = 2048 := rfl
        omega
      have whole : min pkt.as_slice.length io.frame_size = pkt.as_slice.length := by
        have := pkt.fits
        rw [PacketBuf.as_slice_length]
        omega
      have fits : pkt.as_slice.length ≤ io.frame_size := by omega
      obtain ⟨contents,lens,same⟩ := @ih ({ io with free_frames }.umem_write_for_tx idx pkt.as_slice).1 size nodup.2
        (Nat.le_of_succ_le_succ enough)
      rw [build_descs,frames]
      dsimp only
      generalize written : ({ io with free_frames }.umem_write_for_tx idx pkt.as_slice).1 = io₁ at contents lens same ⊢
      have desc : ({ io with free_frames }.umem_write_for_tx idx pkt.as_slice).2 =
          ⟨idx * io.frame_size,pkt.as_slice.length⟩ := by
        show XdpDesc.mk _ (min _ _) = _
        rw [whole]
        rfl
      have umem : ∀ a, io₁.umem a = if idx * io.frame_size ≤ a ∧ a < idx * io.frame_size + pkt.as_slice.length then
          pkt.as_slice.getD (a - idx * io.frame_size) 0 else io.umem a := by
        intro a
        rw [← written]
        show (if _ ∧ a < _ + min _ _ then _ else _) = _
        rw [whole]
        rfl
      have frame_size : io₁.frame_size = io.frame_size := by rw [← written]; rfl
      have free : io₁.free_frames = free_frames := by rw [← written]; rfl
      rw [frame_size,free] at same
      rw [frame_size] at lens
      rw [desc]
      refine ⟨?_,?_,?_⟩
      · rw [List.map_cons,List.map_cons,contents]
        congr 1
        have kept : (io₁.build_descs buf).1.content ⟨idx * io.frame_size,pkt.as_slice.length⟩ =
            io₁.content ⟨idx * io.frame_size,pkt.as_slice.length⟩ := by
          refine content_congr some_size ?_ fun a inside => same a fun taken => ?_
          · rw [Within,Nat.mul_div_cancel _ some_size,Nat.add_mul,one_mul]
            exact Nat.add_le_add_left fits _
          · dsimp only at inside
            rw [inside,Nat.mul_div_cancel _ some_size] at taken
            exact nodup.1 (List.mem_of_mem_take taken)
        rw [kept]
        exact umem_read_written fun a first last => (umem a).trans (if_pos ⟨first,last⟩)
      · rintro desc (first | listed)
        · exact fits
        · exact lens _ (by assumption)
      · intro a outside
        rw [List.length_cons,List.take_succ_cons,List.mem_cons,not_or] at outside
        rw [same a outside.2,umem,if_neg]
        rintro ⟨first,last⟩
        refine outside.1 (frame_of some_size first ?_)
        rw [Nat.add_mul,one_mul]
        omega

/-- The packets that there are frames for are written, and those that there is room for
    are put on the ring. -/
theorem send_batch_built {buf : List PacketBuf} (some_packet : buf ≠ []) :
    io.send_batch buf =
      let drained := io.drain_completions
      let built := drained.build_descs (buf.take drained.free_frames.length)
      ({ built.1 with tx := insert built.1.ring_size built.1.tx built.2 },
        min built.2.length (built.1.ring_size - built.1.tx.length)) := by
  rw [send_batch,if_neg some_packet]
  dsimp only
  generalize io.drain_completions = drained
  by_cases starved : min buf.length drained.free_frames.length = 0
  · have none_free : drained.free_frames = [] := by
      have := List.length_pos_of_ne_nil some_packet
      exact List.eq_nil_of_length_eq_zero (by omega)
    rw [if_pos starved,none_free,List.length_nil,List.take_zero,build_descs]
    simp [insert]
  · have same : buf.take (min buf.length drained.free_frames.length) = buf.take drained.free_frames.length := by
      rw [Nat.min_comm,← List.take_take,List.take_length]
    rw [if_neg starved,same]

/-! ### Frames apart -/

theorem Layout.tx_frame (layout : Layout config io) {place : Place} {idx : Nat} (held : idx ∈ io.holds place) :
    config.ring_size ≤ idx ∧ idx < config.num_frames := by
  have listed := Multiset.mem_of_le layout.tx_all (mem_census.mpr ⟨place,held⟩)
  rw [Multiset.mem_coe,List.mem_range'_1] at listed
  omega

theorem Layout.tx_nodup (layout : Layout config io) : (census io.holds).Nodup :=
  Multiset.nodup_of_le layout.tx_all (Multiset.coe_nodup.mpr List.nodup_range')

theorem Layout.rx_frame (layout : Layout config io) {idx : Nat} (held : idx ∈ io.rx_frames) : idx < config.ring_size :=
  List.mem_range.mp (layout.rx_all.mem_iff.mp held)

theorem Layout.rx_nodup (layout : Layout config io) : io.rx_frames.Nodup :=
  layout.rx_all.nodup_iff.mpr List.nodup_range

/-- The frames that the kernel is transmitting, or is to transmit. -/
theorem Layout.transmitting (layout : Layout config io) (some_size : 0 < config.frame_size) {addr : Nat}
    (listed : addr ∈ io.tx.map XdpDesc.addr ++ io.kernel) : addr / config.frame_size ∈ io.holds .transmitting := by
  have aligned : Aligned config.frame_size addr := by
    rcases List.mem_append.mp listed with queued | taken
    · obtain ⟨desc,inside,rfl⟩ := List.mem_map.mp queued
      exact (layout.tx_aligned desc inside).1
    · exact layout.kernel_aligned addr taken
  have own := aligned.frame some_size
  rw [holds]
  refine List.mem_map.mpr ⟨addr,listed,?_⟩
  rw [addr_to_frame_idx,layout.frame_size,own]

/-- The frames whose bytes are waiting to be read, by the owner or by the kernel. -/
def busy (io : AfXdpIo) : List Nat :=
  io.rx.map (fun desc => desc.addr / io.frame_size) ++
    (io.tx.map XdpDesc.addr ++ io.kernel).map (· / io.frame_size)

theorem Layout.busy_cases (layout : Layout config io) (some_size : 0 < config.frame_size) {idx : Nat}
    (busy : idx ∈ io.busy) : idx ∈ io.rx.map (fun desc => desc.addr / io.frame_size) ∨ idx ∈ io.holds .transmitting := by
  rcases List.mem_append.mp busy with received | sending
  · exact .inl received
  · obtain ⟨addr,listed,rfl⟩ := List.mem_map.mp sending
    refine .inr ?_
    rw [layout.frame_size]
    exact layout.transmitting some_size listed

theorem Layout.drain_completions (layout : Layout config io) : Layout config io.drain_completions := by
  obtain ⟨count,same⟩ := drain_completions_eq io
  rw [same]
  refine ⟨layout.frame_size,layout.ring_size,layout.rx_all,layout.fill_aligned,layout.rx_within,
    le_trans (le_of_eq ?_) layout.tx_all,layout.tx_aligned,layout.kernel_aligned⟩
  refine census_move (a := .free) (b := .completed) (by decide) ?_ fun place apart apart' => ?_
  · show (io.free_frames ++ (io.completion.take count).map io.addr_to_frame_idx ++
      (io.completion.drop count).map io.addr_to_frame_idx).Perm (io.free_frames ++ io.completion.map io.addr_to_frame_idx)
    rw [List.append_assoc,← List.map_append,List.take_append_drop]
  · cases place with
    | free => exact absurd rfl apart
    | transmitting => rfl
    | completed => exact absurd rfl apart'

theorem drain_completions_same (io : AfXdpIo) : io.drain_completions.umem = io.umem ∧
    io.drain_completions.rx = io.rx ∧ io.drain_completions.tx = io.tx ∧ io.drain_completions.kernel = io.kernel ∧
    io.drain_completions.fill = io.fill := by
  obtain ⟨count,same⟩ := drain_completions_eq io
  rw [same]
  exact ⟨rfl,rfl,rfl,rfl,rfl⟩

/-- What `send_batch` does to a socket without completed frames, or with no room for
    them. -/
structure Built (io : AfXdpIo) (buf : List PacketBuf) (io' : AfXdpIo) (descs : List XdpDesc) : Prop where
  state : ∃ umem, io' = { io with free_frames := io.free_frames.drop buf.length, umem }
  addrs : descs.map XdpDesc.addr = (io.free_frames.take buf.length).map io.frame_idx_to_addr
  contents : descs.map io'.content = buf.map PacketBuf.as_slice
  lens : ∀ desc ∈ descs, desc.len ≤ io.frame_size
  same : ∀ a, a / io.frame_size ∉ io.free_frames → io'.umem a = io.umem a

theorem Layout.built (layout : Layout config io) (size : PACKET_BUF_SIZE ≤ config.frame_size) (buf : List PacketBuf)
    (enough : buf.length ≤ io.free_frames.length) : Built io buf (io.build_descs buf).1 (io.build_descs buf).2 := by
  obtain ⟨umem,state,addrs⟩ := build_descs_eq buf enough
  obtain ⟨contents,lens,same⟩ := build_descs_content (layout.frame_size ▸ size) buf
    (place_nodup layout.tx_nodup .free) enough
  exact ⟨⟨umem,state⟩,addrs,contents,lens,fun a outside => same a fun taken => outside (List.mem_of_mem_take taken)⟩

/-- The descriptors that are put on the TX ring are those of free frames. -/
theorem Layout.insert_tx (layout : Layout config io) (some_size : 0 < config.frame_size) {buf : List PacketBuf}
    {io' : AfXdpIo} {descs : List XdpDesc} (built : Built io buf io' descs) :
    Layout config { io' with tx := insert io'.ring_size io'.tx descs } := by
  obtain ⟨⟨umem,rfl⟩,addrs,_,lens,_⟩ := built
  have word : ∀ idx ∈ io.free_frames, idx < 2 ^ 32 := by
    intro idx free
    have := (@Layout.tx_frame _ _ layout .free idx free).2
    have := config.words
    omega
  have own : descs.map (io.addr_to_frame_idx ∘ XdpDesc.addr) = io.free_frames.take buf.length := by
    rw [← List.map_map,addrs,List.map_map]
    refine (List.map_congr_left fun idx taken => ?_).trans (List.map_id _)
    exact addr_to_frame_idx_eq (layout.frame_size ▸ some_size) (word idx (List.mem_of_mem_take taken))
  refine ⟨layout.frame_size,layout.ring_size,layout.rx_all,layout.fill_aligned,layout.rx_within,
    le_trans ?_ layout.tx_all,?_,layout.kernel_aligned⟩
  · refine census_move_le (a := .free) (b := .transmitting) (by decide) ?_ fun place apart apart' => ?_
    · show (io.free_frames.drop buf.length ++ ((insert io.ring_size io.tx descs).map XdpDesc.addr ++ io.kernel).map
        io.addr_to_frame_idx).Subperm (io.free_frames ++ (io.tx.map XdpDesc.addr ++ io.kernel).map io.addr_to_frame_idx)
      have taken : ((descs.take (io.ring_size - io.tx.length)).map (io.addr_to_frame_idx ∘ XdpDesc.addr)).Sublist
          (io.free_frames.take buf.length) := by
        rw [← own]
        exact (List.take_sublist _ _).map _
      rw [insert]
      simp only [List.map_append,List.map_map]
      conv_rhs => rw [← List.take_append_drop buf.length io.free_frames]
      rw [List.subperm_iff_count]
      intro idx
      have counted := taken.count_le idx
      simp only [List.count_append]
      omega
    · cases place with
      | free => exact absurd rfl apart
      | transmitting => exact absurd rfl apart'
      | completed => rfl
  · intro desc listed
    rcases List.mem_append.mp listed with before | new
    · exact layout.tx_aligned desc before
    · have among := List.mem_of_mem_take new
      have addr : desc.addr ∈ (io.free_frames.take buf.length).map io.frame_idx_to_addr := by
        rw [← addrs]
        exact List.mem_map_of_mem among
      obtain ⟨idx,taken,at_frame⟩ := List.mem_map.mp addr
      refine ⟨?_,layout.frame_size ▸ lens desc among⟩
      rw [Aligned,← at_frame,frame_idx_to_addr,layout.frame_size,Nat.mul_div_cancel _ some_size,
        Nat.mod_eq_of_lt (word idx (List.mem_of_mem_take taken))]

/-! ### What the steps keep -/

theorem Layout.send_batch (layout : Layout config io) (size : PACKET_BUF_SIZE ≤ config.frame_size)
    (buf : List PacketBuf) : Layout config (io.send_batch buf).1 := by
  have some_size : 0 < config.frame_size := Nat.lt_of_lt_of_le (by decide) size
  by_cases empty : buf = []
  · rw [AfXdpIo.send_batch,if_pos empty]
    exact layout
  · rw [send_batch_built empty]
    exact layout.drain_completions.insert_tx some_size
      (layout.drain_completions.built size _ (by rw [List.length_take]; omega))

/-- The frames that are read go back to the FILL ring, which has room for them. -/
theorem Layout.recv_batch (layout : Layout config io) (some_size : 0 < config.frame_size) (buf : List PacketBuf) :
    Layout config (io.recv_batch buf).1 := by
  have total := layout.rx_all.length_eq
  rw [rx_frames,List.length_append,List.length_map,List.length_map,List.length_range] at total
  have room : insert io.ring_size io.fill ((io.rx.take buf.length).map fun desc =>
      desc.addr / io.frame_size * io.frame_size) =
      io.fill ++ (io.rx.take buf.length).map fun desc => desc.addr / io.frame_size * io.frame_size := by
    rw [insert,List.take_of_length_le]
    rw [List.length_map,List.length_take,layout.ring_size]
    omega
  have size := layout.frame_size
  refine ⟨layout.frame_size,layout.ring_size,?_,?_,?_,layout.tx_all,layout.tx_aligned,layout.kernel_aligned⟩
  · show ((insert io.ring_size io.fill _).map (· / io.frame_size) ++
      (io.rx.drop buf.length).map (fun desc => desc.addr / io.frame_size)).Perm _
    rw [room,List.map_append,List.map_map,List.append_assoc]
    have whole : (fun desc : XdpDesc => desc.addr / io.frame_size * io.frame_size / io.frame_size) =
        fun desc => desc.addr / io.frame_size :=
      funext fun desc => Nat.mul_div_cancel _ (size ▸ some_size)
    show (_ ++ ((io.rx.take buf.length).map (fun desc : XdpDesc =>
      desc.addr / io.frame_size * io.frame_size / io.frame_size) ++ _)).Perm _
    rw [whole,← List.map_append,List.take_append_drop]
    exact layout.rx_all
  · intro addr listed
    change addr ∈ insert _ _ _ at listed
    rw [room] at listed
    rcases List.mem_append.mp listed with before | back
    · exact layout.fill_aligned addr before
    · obtain ⟨desc,_,rfl⟩ := List.mem_map.mp back
      rw [size,Nat.mul_div_cancel _ some_size]
  · exact fun desc listed => layout.rx_within desc (List.mem_of_mem_drop listed)

/-- The address of the first free frame of the receiving side, and what is written there. -/
theorem Layout.headroom (layout : Layout config io) {addr headroom : Nat} {fill : List Nat}
    (waiting : io.fill = addr :: fill) (inside : headroom < config.frame_size) :
    (addr + headroom) / config.frame_size = addr / config.frame_size := by
  have aligned := layout.fill_aligned addr (by rw [waiting]; exact List.mem_cons_self)
  refine frame_of (by omega) ?_ ?_
  · omega
  · rw [Nat.add_mul,one_mul]
    omega

theorem Layout.step (layout : Layout config io) (size : PACKET_BUF_SIZE ≤ config.frame_size) {e : Event}
    (inside : Inside config e) : Layout config (io.step e) := by
  have some_size : 0 < config.frame_size := Nat.lt_of_lt_of_le (by decide) size
  cases e with
  | send_batch buf => exact layout.send_batch size buf
  | recv_batch buf => exact layout.recv_batch some_size buf
  | transmit =>
    rw [AfXdpIo.step]
    cases ring : io.tx with
    | nil => exact layout
    | cons desc tx =>
      have aligned := layout.tx_aligned
      rw [ring] at aligned
      refine ⟨layout.frame_size,layout.ring_size,layout.rx_all,layout.fill_aligned,layout.rx_within,
        le_trans (le_of_eq (census_perm fun place => ?_)) layout.tx_all,?_,?_⟩
      · cases place with
        | free | completed => exact List.Perm.refl _
        | transmitting =>
          show ((tx.map XdpDesc.addr ++ (io.kernel ++ [desc.addr])).map io.addr_to_frame_idx).Perm
            ((io.tx.map XdpDesc.addr ++ io.kernel).map io.addr_to_frame_idx)
          rw [ring,← List.append_assoc]
          exact (List.perm_append_singleton desc.addr _).map _
      · exact fun desc' listed => aligned desc' (List.mem_cons_of_mem _ listed)
      · intro addr listed
        rcases List.mem_append.mp listed with before | new
        · exact layout.kernel_aligned addr before
        · rw [List.mem_singleton.mp new]
          exact (aligned desc List.mem_cons_self).1
  | complete i =>
    rw [AfXdpIo.step]
    cases held : io.kernel[i]? with
    | none => exact layout
    | some addr =>
      obtain ⟨within,rfl⟩ := List.getElem?_eq_some_iff.mp held
      refine ⟨layout.frame_size,layout.ring_size,layout.rx_all,layout.fill_aligned,layout.rx_within,
        le_trans (le_of_eq ?_) layout.tx_all,layout.tx_aligned,
        fun addr listed => layout.kernel_aligned addr (List.mem_of_mem_eraseIdx listed)⟩
      refine census_move (a := .transmitting) (b := .completed) (by decide) ?_ fun place apart apart' => ?_
      · show ((io.tx.map XdpDesc.addr ++ io.kernel.eraseIdx i).map io.addr_to_frame_idx ++
          (io.completion ++ [io.kernel[i]]).map io.addr_to_frame_idx).Perm
          ((io.tx.map XdpDesc.addr ++ io.kernel).map io.addr_to_frame_idx ++ io.completion.map io.addr_to_frame_idx)
        have erased := (List.getElem_cons_eraseIdx_perm within).map io.addr_to_frame_idx
        rw [List.perm_iff_count] at erased ⊢
        intro idx
        have counted := erased idx
        simp only [List.map_append,List.map_cons,List.map_nil,List.count_append,List.count_cons,List.count_nil] at counted ⊢
        omega
      · cases place with
        | free => rfl
        | transmitting => exact absurd rfl apart
        | completed => exact absurd rfl apart'
  | deliver headroom frame =>
    rw [AfXdpIo.step]
    cases waiting : io.fill with
    | nil => exact layout
    | cons addr fill =>
      obtain ⟨below,fits⟩ := inside
      have own := layout.headroom waiting below
      have aligned := layout.fill_aligned addr (by rw [waiting]; exact List.mem_cons_self)
      refine ⟨layout.frame_size,layout.ring_size,?_,?_,?_,?_,layout.tx_aligned,layout.kernel_aligned⟩
      · refine List.Perm.trans ?_ layout.rx_all
        show (fill.map (· / io.frame_size) ++ (io.rx ++ [XdpDesc.mk (addr + headroom) frame.length]).map fun desc =>
          desc.addr / io.frame_size).Perm (io.fill.map (· / io.frame_size) ++ io.rx.map fun desc =>
            desc.addr / io.frame_size)
        rw [waiting,List.map_append,List.map_cons,List.map_nil,← List.append_assoc,List.map_cons,List.cons_append]
        dsimp only
        rw [layout.frame_size,own]
        exact List.perm_append_singleton _ _
      · exact fun addr' listed => layout.fill_aligned addr' (by rw [waiting]; exact List.mem_cons_of_mem _ listed)
      · intro desc listed
        rcases List.mem_append.mp listed with before | new
        · exact layout.rx_within desc before
        · rw [List.mem_singleton.mp new,Within]
          dsimp only
          rw [own,Nat.add_mul,one_mul]
          omega
      · refine le_trans (le_of_eq (census_perm fun place => ?_)) layout.tx_all
        cases place <;> exact List.Perm.refl _

/-- No step writes to a frame whose bytes are waiting to be read. -/
theorem Layout.step_umem (layout : Layout config io) (size : PACKET_BUF_SIZE ≤ config.frame_size) {e : Event}
    (inside : Inside config e) {a : Nat} (busy : a / io.frame_size ∈ io.busy) : (io.step e).umem a = io.umem a := by
  have some_size : 0 < config.frame_size := Nat.lt_of_lt_of_le (by decide) size
  have cases := layout.busy_cases some_size busy
  cases e with
  | recv_batch buf => rfl
  | transmit =>
    rw [AfXdpIo.step]
    cases io.tx <;> rfl
  | complete i =>
    rw [AfXdpIo.step]
    cases io.kernel[i]? <;> rfl
  | deliver headroom frame =>
    rw [AfXdpIo.step]
    cases waiting : io.fill with
    | nil => rfl
    | cons addr fill =>
      obtain ⟨below,fits⟩ := inside
      refine if_neg ?_
      rintro ⟨first,last⟩
      have aligned := layout.fill_aligned addr (by rw [waiting]; exact List.mem_cons_self)
      have own : a / config.frame_size = addr / config.frame_size := by
        refine frame_of some_size (by omega) ?_
        rw [Nat.add_mul,one_mul]
        omega
      have filled : addr / io.frame_size ∈ io.fill.map (· / io.frame_size) :=
        List.mem_map_of_mem (by rw [waiting]; exact List.mem_cons_self)
      rw [layout.frame_size,own,← layout.frame_size] at cases
      rcases cases with received | sending
      · exact (List.nodup_append.mp layout.rx_nodup).2.2 _ filled _ received rfl
      · have := layout.rx_frame (List.mem_append_left _ filled)
        have := (layout.tx_frame sending).1
        omega
  | send_batch buf =>
    rw [AfXdpIo.step]
    by_cases empty : buf = []
    · rw [AfXdpIo.send_batch,if_pos empty]
    · rw [send_batch_built empty]
      obtain ⟨umem,rx,tx,kernel,fill⟩ := drain_completions_same io
      have drained := layout.drain_completions
      have built := drained.built size (buf.take io.drain_completions.free_frames.length)
        (by rw [List.length_take]; omega)
      refine (built.same a fun free => ?_).trans (congrFun umem a)
      rw [drained.frame_size,← layout.frame_size] at free
      rcases cases with received | sending
      · have := layout.rx_frame (List.mem_append_right _ received)
        have := (@Layout.tx_frame _ _ drained .free _ free).1
        omega
      · have sending' : a / io.frame_size ∈ io.drain_completions.holds .transmitting := by
          obtain ⟨count,same⟩ := drain_completions_eq io
          rw [same]
          exact sending
        cases @place_unique _ _ _ _ _ .free .transmitting _ drained.tx_nodup free sending'

/-! ### What goes through -/

/-- The packets on the RX ring, as `recv_batch` will return them. -/
def received_next (io : AfXdpIo) : List (List UInt8) :=
  io.rx.map fun desc => (io.content desc).take PACKET_BUF_SIZE
/-- The packets on the TX ring. -/
def transmitted_next (io : AfXdpIo) : List (List UInt8) := io.tx.map io.content

/-- A step leaves the packets on the rings as they are. -/
theorem Layout.rx_content (layout : Layout config io) (size : PACKET_BUF_SIZE ≤ config.frame_size) {e : Event}
    (inside : Inside config e) {desc : XdpDesc} (listed : desc ∈ io.rx) : (io.step e).content desc = io.content desc := by
  have some_size : 0 < config.frame_size := Nat.lt_of_lt_of_le (by decide) size
  refine content_congr some_size (layout.rx_within desc listed) fun a own => layout.step_umem size inside ?_
  rw [layout.frame_size,own,← layout.frame_size]
  exact List.mem_append_left _ (List.mem_map_of_mem listed)

theorem Layout.tx_content (layout : Layout config io) (size : PACKET_BUF_SIZE ≤ config.frame_size) {e : Event}
    (inside : Inside config e) {desc : XdpDesc} (listed : desc ∈ io.tx) : (io.step e).content desc = io.content desc := by
  have some_size : 0 < config.frame_size := Nat.lt_of_lt_of_le (by decide) size
  obtain ⟨aligned,fits⟩ := layout.tx_aligned desc listed
  refine content_congr some_size (aligned.within some_size fits) fun a own => layout.step_umem size inside ?_
  rw [layout.frame_size,own,← layout.frame_size]
  exact List.mem_append_right _ (List.mem_map_of_mem (List.mem_append_left _ (List.mem_map_of_mem listed)))

/-- The packets that `recv_batch` returns are those at the front of the RX ring. -/
theorem received_recv_batch (io : AfXdpIo) (buf : List PacketBuf) :
    io.received (.recv_batch buf) = (io.rx.take buf.length).map fun desc => (io.content desc).take PACKET_BUF_SIZE := by
  rw [received,AfXdpIo.recv_batch]
  dsimp only
  have lengths : (List.zipWith (fun pkt desc => PacketBuf.write_from pkt (io.umem_read desc.addr desc.len)) buf
      (io.rx.take buf.length)).length = (io.rx.take buf.length).length := by
    rw [List.length_zipWith,List.length_take]
    omega
  rw [List.take_left' lengths]
  refine List.ext_getElem ?_ fun i inside inside' => ?_
  · rw [List.length_map,List.length_map,lengths]
  · simp only [List.getElem_map,List.getElem_zipWith,PacketBuf.write_from_as_slice]
    rfl

/-- What the kernel delivers and what is on the RX ring are what is returned and what is
    on the RX ring then. -/
theorem Layout.rx_passes (layout : Layout config io) (size : PACKET_BUF_SIZE ≤ config.frame_size) {e : Event}
    (inside : Inside config e) : io.received_next ++ (io.delivered e).map (List.take PACKET_BUF_SIZE) =
      io.received e ++ (io.step e).received_next := by
  have kept : ∀ rx : List XdpDesc, (∀ desc ∈ rx, desc ∈ io.rx) →
      (rx.map fun desc => ((io.step e).content desc).take PACKET_BUF_SIZE) =
        rx.map fun desc => (io.content desc).take PACKET_BUF_SIZE :=
    fun rx among => List.map_congr_left fun desc listed => by rw [layout.rx_content size inside (among desc listed)]
  cases e with
  | send_batch buf =>
    have rx : (io.step (.send_batch buf)).rx = io.rx := by
      rw [AfXdpIo.step]
      by_cases empty : buf = []
      · rw [AfXdpIo.send_batch,if_pos empty]
      · obtain ⟨umem,descs,_,after⟩ := send_batch_eq io empty
        rw [after]
        exact (drain_completions_same io).2.1
    show io.received_next ++ [] = [] ++ AfXdpIo.received_next _
    rw [List.append_nil,List.nil_append,received_next,received_next,rx,kept io.rx fun _ listed => listed]
  | recv_batch buf =>
    show io.received_next ++ [] = _
    rw [List.append_nil,received_recv_batch]
    have rest := kept (io.rx.drop buf.length) fun _ listed => List.mem_of_mem_drop listed
    show io.received_next = _ ++ (io.rx.drop buf.length).map _
    rw [rest,← List.map_append,List.take_append_drop]
    rfl
  | transmit =>
    have rx : (io.step .transmit).rx = io.rx := by
      rw [AfXdpIo.step]
      cases io.tx <;> rfl
    show io.received_next ++ [] = [] ++ AfXdpIo.received_next _
    rw [List.append_nil,List.nil_append,received_next,received_next,rx,kept io.rx fun _ listed => listed]
  | complete i =>
    have rx : (io.step (.complete i)).rx = io.rx := by
      rw [AfXdpIo.step]
      cases io.kernel[i]? <;> rfl
    show io.received_next ++ [] = [] ++ AfXdpIo.received_next _
    rw [List.append_nil,List.nil_append,received_next,received_next,rx,kept io.rx fun _ listed => listed]
  | deliver headroom frame =>
    have before := kept io.rx fun _ listed => listed
    show io.received_next ++ (if io.fill = [] then [] else [frame]).map _ = [] ++ _
    rw [List.nil_append]
    cases waiting : io.fill with
    | nil =>
      rw [if_pos rfl,List.map_nil,List.append_nil,AfXdpIo.step,waiting]
    | cons addr fill =>
      rw [if_neg (by simp),received_next,received_next]
      rw [show (io.step (.deliver headroom frame)).rx = io.rx ++ [⟨addr + headroom,frame.length⟩] by
        rw [AfXdpIo.step,waiting],List.map_append,before]
      congr 1
      rw [List.map_cons,List.map_nil,List.map_cons,List.map_nil]
      congr 2
      refine (umem_read_written fun a first last => ?_).symm
      rw [AfXdpIo.step,waiting]
      exact if_pos ⟨first,last⟩

/-- What `send_batch` takes and what is on the TX ring are what is transmitted and what
    is on the TX ring then. -/
theorem Layout.tx_passes (layout : Layout config io) (size : PACKET_BUF_SIZE ≤ config.frame_size) {e : Event}
    (inside : Inside config e) : io.transmitted_next ++ io.sent e = io.transmitted e ++ (io.step e).transmitted_next := by
  have kept : ∀ tx : List XdpDesc, (∀ desc ∈ tx, desc ∈ io.tx) → tx.map (io.step e).content = tx.map io.content :=
    fun tx among => List.map_congr_left fun desc listed => layout.tx_content size inside (among desc listed)
  cases e with
  | recv_batch buf =>
    show io.transmitted_next ++ [] = [] ++ _
    rw [List.append_nil,List.nil_append]
    exact (kept io.tx fun _ listed => listed).symm
  | complete i =>
    have tx : (io.step (.complete i)).tx = io.tx := by
      rw [AfXdpIo.step]
      cases io.kernel[i]? <;> rfl
    show io.transmitted_next ++ [] = [] ++ AfXdpIo.transmitted_next _
    rw [List.append_nil,List.nil_append,transmitted_next,transmitted_next,tx]
    exact (kept io.tx fun _ listed => listed).symm
  | deliver headroom frame =>
    have tx : (io.step (.deliver headroom frame)).tx = io.tx := by
      rw [AfXdpIo.step]
      cases io.fill <;> rfl
    show io.transmitted_next ++ [] = [] ++ AfXdpIo.transmitted_next _
    rw [List.append_nil,List.nil_append,transmitted_next,transmitted_next,tx]
    exact (kept io.tx fun _ listed => listed).symm
  | transmit =>
    show io.transmitted_next ++ [] = (io.tx.take 1).map io.content ++ AfXdpIo.transmitted_next _
    rw [List.append_nil,transmitted_next,transmitted_next]
    cases ring : io.tx with
    | nil =>
      rw [AfXdpIo.step,ring]
      simp [ring]
    | cons desc tx =>
      rw [show (io.step .transmit).tx = tx by rw [AfXdpIo.step,ring],
        kept tx fun _ listed => by rw [ring]; exact List.mem_cons_of_mem _ listed]
      rfl
  | send_batch buf =>
    have before := kept io.tx fun _ listed => listed
    show io.transmitted_next ++ (buf.take _).map PacketBuf.as_slice = [] ++ AfXdpIo.transmitted_next _
    rw [List.nil_append,transmitted_next,transmitted_next]
    by_cases empty : buf = []
    · rw [AfXdpIo.step,AfXdpIo.send_batch,if_pos empty]
      simp
    · have drained := layout.drain_completions
      have built := drained.built size (buf.take io.drain_completions.free_frames.length)
        (by rw [List.length_take]; omega)
      obtain ⟨_,_,same_tx,_,_⟩ := drain_completions_same io
      rw [AfXdpIo.step,send_batch_built empty] at before ⊢
      dsimp only at before ⊢
      generalize (io.drain_completions.build_descs (buf.take io.drain_completions.free_frames.length)).2 = descs
        at built before ⊢
      generalize (io.drain_completions.build_descs (buf.take io.drain_completions.free_frames.length)).1 = io'
        at built before ⊢
      have tx : io'.tx = io.tx := by
        obtain ⟨umem,state⟩ := built.state
        rw [state]
        exact same_tx
      have lengths := congrArg List.length built.contents
      rw [List.length_map,List.length_map,List.length_take] at lengths
      rw [tx,insert,List.map_append]
      rw [tx,insert] at before
      rw [before]
      congr 1
      show _ = (descs.take _).map io'.content
      rw [@List.map_take _ _ io'.content,built.contents,← List.map_take,List.take_take]
      congr 1
      rw [List.take_eq_take_iff]
      omega

theorem new_layout {umem : Nat → UInt8} {more : Nat} (accepted : AfXdpIo.new config umem more = .ok io) :
    Layout config io ∧ PACKET_BUF_SIZE ≤ config.frame_size ∧ io.rx = [] ∧ io.tx = [] := by
  have tx_all := (new_accounted accepted).all
  rw [new] at accepted
  split_ifs at accepted with small odd few
  have some_size : 0 < config.frame_size := Nat.lt_of_lt_of_le (by decide) (Nat.le_of_not_lt small)
  cases accepted
  have room : insert config.ring_size [] ((List.range config.ring_size).map (· * config.frame_size)) =
      (List.range config.ring_size).map (· * config.frame_size) := by
    rw [insert,List.nil_append,List.length_nil,Nat.sub_zero,List.take_of_length_le]
    rw [List.length_map,List.length_range]
  refine ⟨⟨rfl,rfl,?_,?_,by simp,le_of_eq tx_all,by simp,by simp⟩,Nat.le_of_not_lt small,rfl,rfl⟩
  · show ((insert _ [] _).map (· / config.frame_size) ++ []).Perm _
    rw [room,List.append_nil,List.map_map]
    refine List.Perm.of_eq ((List.map_congr_left fun idx _ => ?_).trans (List.map_id _))
    exact Nat.mul_div_cancel _ some_size
  · intro addr listed
    change addr ∈ insert _ [] _ at listed
    rw [room] at listed
    obtain ⟨idx,_,rfl⟩ := List.mem_map.mp listed
    rw [Nat.mul_div_cancel _ some_size]

end AfXdpIo

/-- In every run of a socket, the packets that were received and those that wait on the
    RX ring are, in order, those that the kernel delivered, cut off at the end of a
    buffer; those that were transmitted and those that wait on the TX ring are, in order
    and whole, those that were sent; each frame of the receiving side is in one place; and
    nothing writes to a frame whose bytes are waiting to be read. -/
theorem packets_pass_in_order (config : AfXdpConfig) (umem : Nat → UInt8) (more : Nat) (io : AfXdpIo)
    (accepted : AfXdpIo.new config umem more = .ok io) (events : List Event)
    (inside : ∀ e ∈ events, Inside config e) :
    let io' := events.foldl AfXdpIo.step io
    Runs.effects (fun io e => (AfXdpIo.step io e,(io.delivered e).map (List.take PACKET_BUF_SIZE))) io events =
      Runs.effects (fun io e => (AfXdpIo.step io e,io.received e)) io events ++ io'.received_next ∧
    Runs.effects (fun io e => (AfXdpIo.step io e,io.sent e)) io events =
      Runs.effects (fun io e => (AfXdpIo.step io e,io.transmitted e)) io events ++ io'.transmitted_next ∧
    io'.rx_frames.Perm (List.range config.ring_size) ∧
    ∀ e, Inside config e → ∀ a, a / io'.frame_size ∈ io'.busy → (io'.step e).umem a = io'.umem a := by
  intro io'
  obtain ⟨layout,size,rx,tx⟩ := AfXdpIo.new_layout accepted
  have keeps : ∀ io e, AfXdpIo.Layout config io → True ∧ Inside config e → AfXdpIo.Layout config (io.step e) :=
    fun _ _ layout inside => layout.step size inside.2
  have along : Runs.Along AfXdpIo.step (fun _ e => True ∧ Inside config e) io events :=
    (Runs.along_of_forall (fun _ _ => trivial) io events).with_mem inside
  have reached : AfXdpIo.Layout config io' := along.invariant _ keeps layout
  have rx_fifo := along.fifo AfXdpIo.received_next (fun io e => (io.delivered e).map (List.take PACKET_BUF_SIZE))
    AfXdpIo.received keeps (fun io e layout inside => layout.rx_passes size inside.2) layout
  have tx_fifo := along.fifo AfXdpIo.transmitted_next AfXdpIo.sent AfXdpIo.transmitted keeps
    (fun io e layout inside => layout.tx_passes size inside.2) layout
  rw [AfXdpIo.received_next,rx,List.map_nil,List.nil_append] at rx_fifo
  rw [AfXdpIo.transmitted_next,tx,List.map_nil,List.nil_append] at tx_fifo
  exact ⟨rx_fifo,tx_fifo,reached.rx_all,fun e inside a busy => reached.step_umem size inside busy⟩

private def four_frames : AfXdpConfig := ⟨4,4096,2,by decide⟩
private def arriving : Event := .deliver 256 [1,2,3]
private def leaving : Event := .send_batch [.from_slice [4,5]]

private def exchange : List Event := [leaving,arriving,.transmit,.recv_batch [.new]]

/-- A packet is received behind headroom while another is transmitted. -/
theorem packets_pass_both_ways : ∃ io, AfXdpIo.new four_frames (fun _ => 0) 0 = .ok io ∧
    Runs.effects (fun io e => (AfXdpIo.step io e,(io.delivered e).map (List.take PACKET_BUF_SIZE))) io exchange =
      Runs.effects (fun io e => (AfXdpIo.step io e,io.received e)) io exchange ++
        (exchange.foldl AfXdpIo.step io).received_next ∧
    Runs.effects (fun io e => (AfXdpIo.step io e,io.sent e)) io exchange =
      Runs.effects (fun io e => (AfXdpIo.step io e,io.transmitted e)) io exchange ++
        (exchange.foldl AfXdpIo.step io).transmitted_next ∧
    Runs.effects (fun io e => (AfXdpIo.step io e,io.received e)) io exchange = [[1,2,3]] ∧
    Runs.effects (fun io e => (AfXdpIo.step io e,io.transmitted e)) io exchange = [[4,5]] := by
  have inside : ∀ e ∈ exchange, Inside four_frames e := by simp [exchange,leaving,arriving,Inside,four_frames]
  obtain ⟨rx,tx,_⟩ := packets_pass_in_order four_frames (fun _ => 0) 0 _ rfl exchange inside
  exact ⟨_,rfl,rx,tx,by decide +kernel,by decide +kernel⟩

end Lb.Xsk
