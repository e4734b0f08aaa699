/-
The frames the mux writes are the frames its reader reads.

`send_raw` and `read_frame` never meet in the source: one is for the device's
benefit, the other for ours.  But both lay the length field out at bytes 4..8 and
both bound it by `USB_MTU`, so the reader is a decoder for the writer.
`readFrame_append` reads one frame off a pipe by its length field alone;
`Framed` is what a frame needs for that, and everything `send_raw` queues is
`Framed`.
-/
import Netmuxd.Usb.Reader
import Netmuxd.Proofs.Link

namespace Netmuxd

open Reader

/-! ### Reading by the length field -/

/-- The length a frame announces in its bytes 4..8. -/
def announced (stream : Bytes) (h : 8 ≤ stream.length) : Nat :=
  (u32At stream 4 h).toNat

theorem u32At_take {buf : Bytes} {i n : Nat} (hn : i + 4 ≤ buf.length)
    (h : i + 4 ≤ (buf.take n).length) : u32At (buf.take n) i h = u32At buf i hn := by
  simp only [u32At, List.getElem_take]

theorem take_head {stream : Bytes} (h : 8 ≤ stream.length) : (stream.take 8).length = 8 := by
  rw [List.length_take]
  omega

theorem announced_take {stream : Bytes} (h : 8 ≤ stream.length)
    (h' : 4 + 4 ≤ (stream.take 8).length) :
    (u32At (stream.take 8) 4 h').toNat = announced stream h :=
  congrArg UInt32.toNat (u32At_take h h')

theorem readFrame_head {tailRead : Nat} {stream : Bytes} (h : 8 ≤ stream.length) :
    Reader.readFrame tailRead stream = readBody tailRead (stream.take 8)
      (u32At stream 0 (Nat.le_trans (by decide) h)) (announced stream h) (stream.drop 8) := by
  have hread : readExact v1HeaderSize stream = .ok (stream.take 8, stream.drop 8) :=
    readExact_ok h
  have h0 : 0 + 4 ≤ stream.length := Nat.le_trans (by decide) h
  unfold Reader.readFrame
  split
  · rename_i e he
    rw [hread] at he
    cases he
  · rename_i head8 rest he
    rw [hread] at he
    cases he
    simp only [announced_take h, u32At_take h0]

theorem readFrame_short {tailRead : Nat} {stream : Bytes} (h : stream.length < 8) :
    Reader.readFrame tailRead stream = .error .unexpectedEof := by
  have hread : readExact v1HeaderSize stream = .error .unexpectedEof := readExact_eof h
  unfold Reader.readFrame
  split
  · rename_i e he
    rw [hread] at he
    cases he
    rfl
  · rename_i head8 rest he
    rw [hread] at he
    cases he

/-- A frame that is all there comes off the pipe whole. -/
theorem readFrame_whole {tailRead : Nat} {stream : Bytes} (h : 8 ≤ stream.length)
    (hp : Plausible (announced stream h)) (hall : announced stream h ≤ stream.length) :
    Reader.readFrame tailRead stream =
      .ok (stream.take (announced stream h), stream.drop (announced stream h)) := by
  have hmin : 8 ≤ announced stream h := Nat.le_trans (by decide) hp.1
  have hcut : announced stream h - v1HeaderSize ≤ (stream.drop 8).length := by
    rw [List.length_drop, v1HeaderSize]
    omega
  have hsplit : 8 + (announced stream h - v1HeaderSize) = announced stream h := by
    rw [v1HeaderSize]
    omega
  rw [readFrame_head h, readBody]
  simp only [not_not.mpr hp, ↓reduceIte, readExact_ok hcut]
  rw [← List.take_add, List.drop_drop, hsplit]

theorem readFrame_refuses (tailRead : Nat) {stream : Bytes} (h : 8 ≤ stream.length)
    (hp : ¬ Plausible (announced stream h)) : ∃ e, Reader.readFrame tailRead stream = .error e := by
  rw [readFrame_head h, readBody, if_pos hp]
  exact ⟨_, rfl⟩

/-! ### Frames -/

/-- A frame whose length field says how long it is, within what the reader allows. -/
def Framed (pkt : Bytes) : Prop :=
  ∃ h : 8 ≤ pkt.length, Plausible pkt.length ∧ announced pkt h = pkt.length

theorem announced_append {pkt rest : Bytes} (h : 8 ≤ pkt.length)
    (h' : 8 ≤ (pkt ++ rest).length) : announced (pkt ++ rest) h' = announced pkt h := by
  simp only [announced, u32At]
  rw [List.getElem_append_left (by omega), List.getElem_append_left (by omega),
    List.getElem_append_left (by omega), List.getElem_append_left (by omega)]

theorem readFrame_append {pkt rest : Bytes} (tailRead : Nat) (h : Framed pkt) :
    Reader.readFrame tailRead (pkt ++ rest) = .ok (pkt, rest) := by
  obtain ⟨h8, hp, hlen⟩ := h
  have h8' : 8 ≤ (pkt ++ rest).length := by
    rw [List.length_append]
    omega
  have hann : announced (pkt ++ rest) h8' = pkt.length := by
    rw [announced_append h8, hlen]
  rw [readFrame_whole h8' (by rw [hann]; exact hp)
    (by rw [hann, List.length_append]; omega), hann, List.take_left, List.drop_left]

/-- **Framing.**  Frames laid end to end are read back one by one, and no byte more. -/
theorem readFrames_flatten (tailRead : Nat) {pkts : List Bytes} (rest : Bytes)
    (h : ∀ pkt ∈ pkts, Framed pkt) :
    readFrames tailRead pkts.length (pkts.flatten ++ rest) = .ok (pkts, rest) := by
  induction pkts with
  | nil => rfl
  | cons pkt pkts ih =>
      have hpkt : Framed pkt := h pkt (List.mem_cons_self ..)
      have hrest := ih fun p hp => h p (List.mem_cons_of_mem _ hp)
      rw [List.length_cons, readFrames, List.flatten_cons, List.append_assoc,
        readFrame_append tailRead hpkt]
      simp only [hrest]

/-! ### What the writer builds -/

theorem announced_fields (proto x : UInt32) (body : Bytes)
    (h : 8 ≤ (toBe32 proto ++ toBe32 x ++ body).length) :
    announced (toBe32 proto ++ toBe32 x ++ body) h = x.toNat := by
  simp [announced, toBe32, u32At]

theorem framed_of_fields (proto : UInt32) {body : Bytes} (hp : Plausible (8 + body.length)) :
    Framed (toBe32 proto ++ toBe32 (UInt32.ofNat (8 + body.length)) ++ body) := by
  have hlen : (toBe32 proto ++ toBe32 (UInt32.ofNat (8 + body.length)) ++ body).length =
      8 + body.length := by
    simp only [List.length_append, toBe32_length]
  have h8 : 8 ≤ (toBe32 proto ++ toBe32 (UInt32.ofNat (8 + body.length)) ++ body).length := by
    omega
  refine ⟨h8, hlen ▸ hp, ?_⟩
  have hlt : 8 + body.length < 2 ^ 32 := Nat.lt_of_le_of_lt hp.2 (by decide)
  rw [announced_fields, hlen, UInt32.toNat_ofNat', Nat.mod_eq_of_lt hlt]

/-- A send that queues exactly one frame. -/
def Queues (l : Link) (i : Nat) (r : Except IoError Unit × Link) (pkt : Bytes) : Prop :=
  r.1 = .ok () ∧ r.2.out = l.out ++ [⟨i, .frame pkt⟩]

theorem Queues.inj {l : Link} {i : Nat} {r : Except IoError Unit × Link} {pkt pkt' : Bytes}
    (h : Queues l i r pkt) (h' : Queues l i r pkt') : pkt = pkt' := by
  have heq := List.append_cancel_left (h.2.symm.trans h'.2)
  cases heq
  rfl

theorem writeTx_queues {l : Link} (i : Nat) (pkt : Bytes) (hw : l.writeLeft ≠ some 0) :
    Queues l i (writeTx l i pkt) pkt := by
  unfold writeTx
  split
  · exact ⟨rfl, rfl⟩
  · exact ⟨rfl, rfl⟩
  · rename_i h0
    exact absurd h0 hw

theorem writeTx_ok {l : Link} {i : Nat} {pkt : Bytes} (h : (writeTx l i pkt).1 = .ok ()) :
    l.writeLeft ≠ some 0 := by
  intro h0
  rw [writeTx, h0] at h
  cases h

/-- Whatever `send_raw` queues has its own length in bytes 4..8. -/
theorem sendRaw_framed {l : Link} {i : Nat} {proto : Proto} {header payload pkt : Bytes}
    {reset : Bool} (hbig : 16 ≤ muxHeaderSize l.state.version + header.length + payload.length)
    (h : Queues l i (sendRaw l i proto header payload reset) pkt) : Framed pkt := by
  set total := muxHeaderSize l.state.version + header.length + payload.length with htotal
  have hsmall : ¬ usbMtu < total := by
    intro hlarge
    have herr := h.1
    rw [sendRaw] at herr
    simp only [← htotal, if_pos hlarge] at herr
    cases herr
  have hp : Plausible total := ⟨hbig, Nat.le_of_not_lt hsmall⟩
  obtain ⟨l₁, body, hout, hlen, hraw⟩ : ∃ (l₁ : Link) (body : Bytes), l₁.out = l.out ∧
      total = 8 + body.length ∧ sendRaw l i proto header payload reset =
        writeTx l₁ i (toBe32 proto.toU32 ++ toBe32 (UInt32.ofNat total) ++ body) := by
    rw [sendRaw]
    simp only [← htotal, if_neg hsmall]
    by_cases hv : 2 ≤ l.state.version
    · have hsize : muxHeaderSize l.state.version = 16 := if_neg (UInt8.not_lt.mpr hv)
      simp only [hv, ↓reduceIte, List.append_assoc]
      refine ⟨_, _, ?_, ?_, rfl⟩
      · rfl
      · simp only [List.length_append, toBe32_length, toBe16_length]
        omega
    · have hsize : muxHeaderSize l.state.version = 8 := if_pos (UInt8.not_le.mp hv)
      simp only [hv, ↓reduceIte, List.append_assoc]
      refine ⟨_, _, ?_, ?_, rfl⟩
      · rfl
      · simp only [List.length_append]
        omega
  rw [hraw] at h
  have hw := writeTx_queues i (toBe32 proto.toU32 ++ toBe32 (UInt32.ofNat total) ++ body)
    (writeTx_ok h.1)
  have hpkt : pkt = toBe32 proto.toU32 ++ toBe32 (UInt32.ofNat total) ++ body :=
    Queues.inj h ⟨hw.1, by rw [hw.2, hout]⟩
  rw [hpkt, hlen]
  exact framed_of_fields _ (hlen ▸ hp)

/-- The packets that `send_version`, the SETUP and `send_tcp` build. -/
inductive Built : Bytes → Prop
  | version {l : Link} {major minor : UInt32} {pkt : Bytes} (hv : l.state.version = 0)
      (h : Queues l 0 (sendVersion l major minor) pkt) : Built pkt
  | setup {l : Link} {pkt : Bytes} (hv : l.state.version = 2)
      (h : Queues l 0 (sendRaw l 0 .setup [] [0x07] true) pkt) : Built pkt
  | tcp {l : Link} {conn : Connection} {flags : UInt8} {payload pkt : Bytes}
      (hv : l.state.version = 2) (hp : payload.length ≤ maxPayload)
      (h : Queues l conn.id (sendTcp l conn flags payload) pkt) : Built pkt

theorem Built.framed {pkt : Bytes} (h : Built pkt) : Framed pkt := by
  cases h with
  | version hv h =>
      refine sendRaw_framed ?_ h
      rw [hv]
      simp [muxHeaderSize, v1HeaderSize]
  | setup hv h =>
      refine sendRaw_framed ?_ h
      rw [hv]
      simp [muxHeaderSize, v2HeaderSize]
  | tcp hv hp h =>
      refine sendRaw_framed ?_ h
      rw [hv]
      simp only [muxHeaderSize, v2HeaderSize, UInt8.lt_irrefl, ↓reduceIte]
      omega

/-! ### Taking a TCP packet apart again -/

/-- `RX_WINDOW - rx_buffered`, saturating, in units of 256 bytes. -/
theorem headerOf_window_toNat (conn : Connection) (flags : UInt8) :
    (headerOf conn flags).window.toNat = (rxWindow.toNat - conn.rxBuffered.toNat) / 256 := by
  have hfree : conn.free.toNat = rxWindow.toNat - conn.rxBuffered.toNat := by
    unfold Connection.free saturatingSub
    split
    · rename_i h
      exact UInt32.toNat_sub_of_le _ _ h
    · rename_i h
      have hlt : rxWindow.toNat < conn.rxBuffered.toNat := UInt32.not_le.mp h
      rw [UInt32.toNat_zero]
      omega
  have hwin : rxWindow.toNat = 131072 := rfl
  have hshift : UInt32.toNat 8 % 32 = 8 := rfl
  rw [headerOf_window, UInt32.toNat_toUInt16, UInt32.toNat_shiftRight, hfree, hshift,
    Nat.shiftRight_eq_div_pow]
  omega

theorem sendTcp_queues {l : Link} (conn : Connection) (flags : UInt8) {payload : Bytes}
    (hv : l.state.version = 2) (hp : payload.length ≤ maxPayload) (hw : l.writeLeft ≠ some 0) :
    Queues l conn.id (sendTcp l conn flags payload)
      (packetOf l.state (headerOf conn flags) payload) := by
  rw [sendTcp_eq hv hp]
  exact writeTx_queues (l := { l with state := { l.state with txSeq := l.state.txSeq + 1 } }) _ _ hw

theorem splitTcp_packetOf (state : MuxState) (th : ParsedTcp) (payload : Bytes) :
    splitTcp 2 (packetOf state th payload) = .ok (some (th, payload)) := by
  have h := tcpOf_packetOf state th payload
  rw [tcpOf] at h
  split at h
  · rename_i r hr
    rw [hr, h]
  · cases h

/--
**The frame codec.**  Packets laid end to end are read back as they were built, and
nothing behind them is touched.  A TCP packet carries its connection's fields and its
payload through the parsers.  On any pipe that holds what its length field announces,
the reader fails exactly when that length is outside what a frame can have, and
otherwise returns that many bytes unchanged.
-/
theorem frame_codec (tailRead : Nat) :
    (∀ (pkts : List Bytes) (rest : Bytes), (∀ pkt ∈ pkts, Built pkt) →
      readFrames tailRead pkts.length (pkts.flatten ++ rest) = .ok (pkts, rest)) ∧
    (∀ (l : Link) (conn : Connection) (flags : UInt8) (payload : Bytes),
      l.state.version = 2 → payload.length ≤ maxPayload → l.writeLeft ≠ some 0 →
      ∃ pkt th, Queues l conn.id (sendTcp l conn flags payload) pkt ∧ Built pkt ∧
        parseHeader pkt 2 = .ok ⟨Proto.tcp.toU32⟩ ∧ splitTcp 2 pkt = .ok (some (th, payload)) ∧
        th.srcPort = conn.sport ∧ th.dstPort = conn.dport ∧ th.seq = conn.txSeq ∧
        th.ack = conn.txAck ∧ th.flags = flags ∧
        th.window.toNat = (rxWindow.toNat - conn.rxBuffered.toNat) / 256) ∧
    (∀ (stream : Bytes) (h : 8 ≤ stream.length), announced stream h ≤ stream.length →
      ((∃ e, Reader.readFrame tailRead stream = .error e) ↔ ¬ Plausible (announced stream h)) ∧
      (Plausible (announced stream h) → Reader.readFrame tailRead stream =
        .ok (stream.take (announced stream h), stream.drop (announced stream h)))) := by
  refine ⟨?_, ?_, ?_⟩
  · intro pkts rest hbuilt
    exact readFrames_flatten tailRead rest fun pkt hpkt => (hbuilt pkt hpkt).framed
  · intro l conn flags payload hv hp hw
    have hq := sendTcp_queues conn flags hv hp hw
    exact ⟨_, _, hq, Built.tcp hv hp hq, parseHeader_packetOf _ _ _, splitTcp_packetOf _ _ _,
      rfl, rfl, rfl, rfl, rfl, headerOf_window_toNat conn flags⟩
  · intro stream h hall
    refine ⟨⟨?_, readFrame_refuses tailRead h⟩, fun hp => readFrame_whole h hp hall⟩
    rintro ⟨e, he⟩ hp
    rw [readFrame_whole h hp hall] at he
    cases he

/-- The VERSION frame and a data packet, with three more bytes behind them. -/
theorem frame_codec_two :
    let version := toBe32 0 ++ toBe32 20 ++ (toBe32 2 ++ toBe32 0 ++ toBe32 0)
    let data := packetOf { version := 2 } (headerOf (Connection.new 1 1 62078) TcpFlags.ack) [0xAB]
    readFrames 0 2 ([version, data].flatten ++ [1, 2, 3]) = .ok ([version, data], [1, 2, 3]) ∧
      ∃ th, splitTcp 2 data = .ok (some (th, [0xAB])) ∧ th.dstPort = 62078 := by
  intro version data
  have hsend : Queues { state := { version := 2 }, writeLeft := none } 1
      (sendTcp { state := { version := 2 }, writeLeft := none } (Connection.new 1 1 62078)
        TcpFlags.ack [0xAB]) data :=
    sendTcp_queues _ _ rfl (by decide) (by decide)
  constructor
  · refine (frame_codec 0).1 [version, data] [1, 2, 3] ?_
    intro pkt hpkt
    rcases List.mem_cons.mp hpkt with rfl | hpkt
    · exact @Built.version { writeLeft := none } 2 0 _ rfl ⟨rfl, rfl⟩
    · rw [List.mem_singleton.mp hpkt]
      exact Built.tcp rfl (by decide) hsend
  · obtain ⟨pkt, th, hq, -, -, hsplit, -, hport, -⟩ := (frame_codec 0).2.1
      { state := { version := 2 }, writeLeft := none } (Connection.new 1 1 62078) TcpFlags.ack
      [0xAB] rfl (by decide) (by decide)
    rw [Queues.inj hq hsend] at hsplit
    exact ⟨th, hsplit, hport⟩

end Netmuxd
