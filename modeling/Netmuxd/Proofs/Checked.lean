/-
Nothing a device sends makes the mux panic.

Each function of `Usb/Checked.lean` comes to the function of the same name without
failures, whatever the packet and the state.  The reason is local every time: the
length check a few lines up, or the comparison in front of the subtraction.  So no
invariant of the loop is needed, and what is left of a session is that its frames
come from `read_frame`.
-/
import Netmuxd.Usb.Checked
import Netmuxd.Proofs.Session

namespace Netmuxd.Checked

open Lib Reader

/-! ### Operations in range -/

theorem slice_eq {buf : Bytes} {i j : Nat} (h : i ≤ j ∧ j ≤ buf.length) :
    slice buf i j = some (Netmuxd.slice buf i j h) :=
  if_pos h

theorem sliceFrom_eq {buf : Bytes} {i : Nat} (h : i ≤ buf.length) :
    sliceFrom buf i = some (Netmuxd.sliceFrom buf i h) :=
  if_pos h

theorem u16From_eq {buf : Bytes} {i : Nat} (h : i + 2 ≤ buf.length) :
    u16From buf i (i + 2) = some (u16At buf i h) := by
  have hcut : (buf.take (i + 2)).drop i = [buf[i], buf[i + 1]] := by
    rw [List.drop_take, Nat.add_sub_cancel_left, List.drop_eq_getElem_cons (by omega),
      List.drop_eq_getElem_cons (by omega)]
    rfl
  rw [u16From, slice, if_pos ⟨by omega, h⟩, hcut]
  rfl

theorem u32From_eq {buf : Bytes} {i : Nat} (h : i + 4 ≤ buf.length) :
    u32From buf i (i + 4) = some (u32At buf i h) := by
  have hcut : (buf.take (i + 4)).drop i = [buf[i], buf[i + 1], buf[i + 2], buf[i + 3]] := by
    rw [List.drop_take, Nat.add_sub_cancel_left, List.drop_eq_getElem_cons (by omega),
      List.drop_eq_getElem_cons (by omega), List.drop_eq_getElem_cons (by omega),
      List.drop_eq_getElem_cons (by omega)]
    rfl
  rw [u32From, slice, if_pos ⟨by omega, h⟩, hcut]
  rfl

/-- A 16-bit number shifted by 8 stays below 2^24. -/
theorem shl_window (window : UInt16) : shl window.toUInt32 8 = some (window.toUInt32 <<< 8) := by
  have hlt := window.toNat_lt
  refine if_pos ⟨by decide, ?_⟩
  rw [UInt16.toNat_toUInt32]
  omega

theorem sub_eq {a b : UInt32} (h : b ≤ a) : sub a b = some (a - b) :=
  if_pos h

theorem drainTo_eq {buf : Bytes} {n : Nat} (h : n ≤ buf.length) :
    drainTo buf n = some (buf.take n, buf.drop n) :=
  if_pos h

/-! ### Reading and parsing -/

theorem parseHeader_eq (pkt : Bytes) (version : UInt8) :
    parseHeader pkt version = some (Netmuxd.parseHeader pkt version) := by
  unfold parseHeader Netmuxd.parseHeader
  split
  · rfl
  · have hsize := v1HeaderSize_le version
    rw [show u32From pkt 0 4 = _ from u32From_eq (i := 0) (by omega)]
    rfl

theorem parseTcp_eq (buf : Bytes) : parseTcp buf = some (Netmuxd.parseTcp buf) := by
  unfold parseTcp Netmuxd.parseTcp
  split
  · rfl
  · rename_i h
    have hlen : 20 ≤ buf.length := Nat.le_of_not_lt h
    rw [show u16From buf 0 2 = _ from u16From_eq (i := 0) (by omega),
      show u16From buf 2 4 = _ from u16From_eq (i := 2) (by omega),
      show u32From buf 4 8 = _ from u32From_eq (i := 4) (by omega),
      show u32From buf 8 12 = _ from u32From_eq (i := 8) (by omega),
      show u16From buf 14 16 = _ from u16From_eq (i := 14) (by omega),
      List.getElem?_eq_getElem (by omega)]
    rfl

/-! ### Sending -/

theorem sendRaw_eq (l : Link) (id : Nat) (proto : Proto) (header payload : Bytes)
    (resetSeq : Bool) : sendRaw l id proto header payload resetSeq =
      some (Netmuxd.sendRaw l id proto header payload resetSeq) := by
  unfold sendRaw Netmuxd.sendRaw
  simp only
  split
  · rfl
  · rename_i h
    rw [frameCapacity, if_pos (Nat.le_of_not_lt h)]
    split
    · rfl
    · rfl

theorem tcpHeader_eq (conn : Connection) (flags : UInt8) :
    tcpHeader conn flags = some (Netmuxd.tcpHeader conn flags) := rfl

theorem sendTcp_eq (l : Link) (conn : Connection) (flags : UInt8) (payload : Bytes) :
    sendTcp l conn flags payload = some (Netmuxd.sendTcp l conn flags payload) := by
  rw [sendTcp, tcpHeader_eq]
  exact sendRaw_eq ..

theorem sendVersion_eq (l : Link) (major minor : UInt32) :
    sendVersion l major minor = some (Netmuxd.sendVersion l major minor) :=
  sendRaw_eq ..

/-! ### Flushing -/

theorem flushTurn_eq (s : Link × Connection) :
    flushTurn s = (Netmuxd.flushTurn s).map some := by
  obtain ⟨l, conn⟩ := s
  unfold flushTurn Netmuxd.flushTurn
  simp only
  split
  · rfl
  split
  · rfl
  · rename_i hfull
    -- the comparison just made is what the subtraction needs
    rw [sub_eq (UInt32.le_of_lt (UInt32.not_le.mp hfull))]
    simp only [Option.bind_eq_bind, Option.bind_some]
    split
    · rfl
    · rw [drainTo_eq (by omega)]
      simp only [Option.bind_some, sendTcp_eq]
      generalize Netmuxd.sendTcp l _ TcpFlags.ack _ = r
      obtain ⟨res, l'⟩ := r
      cases res with
      | error e => rfl
      | ok => rfl

theorem iter_flushTurn (l : Link) (conn : Connection) :
    flushLoop l conn = some (Netmuxd.flushLoop l conn) := by
  have hdone := iter_whileLoop flushTurn_lowers (l, conn)
  rw [flushLoop, iter_map flushTurn_eq, hdone]
  rfl

theorem flushPending_eq (l : Link) (conn : Connection) :
    flushPending l conn = some (Netmuxd.flushPending l conn) := by
  unfold flushPending Netmuxd.flushPending
  rw [iter_flushTurn]
  generalize Netmuxd.flushLoop l conn = r
  obtain ⟨e | ⟨⟩, l', conn'⟩ := r
  · rfl
  · simp only [Option.bind_eq_bind, Option.bind_some]
    split_ifs
    · rfl
    · rfl

/-! ### Packets from the device -/

theorem handleConnecting_eq (m : Mux) (conn : Connection) (th : ParsedTcp) (payload : Bytes) :
    handleConnecting m conn th payload =
      some (Netmuxd.handleConnecting m conn th payload) := by
  unfold handleConnecting Netmuxd.handleConnecting
  simp only [sendTcp_eq, Option.bind_eq_bind, Option.bind_some]
  by_cases hsyn : th.flags = TcpFlags.syn ||| TcpFlags.ack
  · simp only [hsyn, ↓reduceIte]
    generalize Netmuxd.sendTcp m.link _ TcpFlags.ack [] = r
    obtain ⟨e | ⟨⟩, l⟩ := r
    · rfl
    · cases conn.connectReply with
      | true => rfl
      | false => rfl
  · simp only [hsyn, ↓reduceIte]
    cases conn.connectReply with
    | true => rfl
    | false => rfl

theorem flushAndClose_eq (m : Mux) (l : Link) (conn : Connection) (ourSport : UInt16) :
    flushAndClose m l conn ourSport = some (Netmuxd.flushAndClose m l conn ourSport) := by
  unfold flushAndClose Netmuxd.flushAndClose
  simp only [flushPending_eq, sendTcp_eq, Option.bind_eq_bind, Option.bind_some]
  generalize Netmuxd.flushPending l conn = r
  obtain ⟨e | ⟨⟩, l', conn'⟩ := r
  · rfl
  · simp only
    split_ifs
    · generalize Netmuxd.sendTcp l' conn' TcpFlags.rst [] = r
      obtain ⟨e | ⟨⟩, l''⟩ := r
      · rfl
      · rfl
    · rfl

theorem handleConnected_eq (m : Mux) (alive : Bool) (conn : Connection) (th : ParsedTcp)
    (payload : Bytes) : handleConnected m alive conn th payload =
      some (Netmuxd.handleConnected m alive conn th payload) := by
  unfold handleConnected Netmuxd.handleConnected
  simp only [sendTcp_eq, flushAndClose_eq, Option.bind_eq_bind, Option.bind_some]
  split_ifs
  · rfl
  · rfl
  · rfl
  · generalize Netmuxd.sendTcp _ _ TcpFlags.ack [] = r
    obtain ⟨e | ⟨⟩, l⟩ := r
    · rfl
    · rfl
  · rfl

theorem handleTcp_eq (m : Mux) (alive : Nat → Bool) (th : ParsedTcp) (payload : Bytes) :
    handleTcp m alive th payload = some (Netmuxd.handleTcp m alive th payload) := by
  unfold handleTcp Netmuxd.handleTcp
  simp only [sendTcp_eq, shl_window, handleConnecting_eq, handleConnected_eq,
    Option.bind_eq_bind, Option.bind_some]
  cases m.connections th.dstPort with
  | none =>
      simp only
      split_ifs
      · rfl
      · rfl
  | some conn =>
      simp only
      cases conn.state with
      | connecting => rfl
      | connected => rfl
      | dead => rfl

theorem handleIncoming_eq (m : Mux) (alive : Nat → Bool) (pkt : Bytes) :
    handleIncoming m alive pkt = some (Netmuxd.handleIncoming m alive pkt) := by
  unfold handleIncoming Netmuxd.handleIncoming splitTcp
  simp only [parseHeader_eq, parseTcp_eq, handleTcp_eq, Option.bind_eq_bind, Option.bind_some]
  cases hhdr : Netmuxd.parseHeader pkt m.link.state.version with
  | error e => rfl
  | ok hdr =>
      have hlen := parseHeader_length hhdr
      simp only
      by_cases htcp : hdr.protocol = Proto.tcp.toU32
      · simp only [htcp, ↓reduceIte]
        by_cases hshort : pkt.length < muxHeaderSize m.link.state.version + tcpHeaderSize
        · simp only [hshort, ↓reduceIte, ↓reduceDIte]
          rfl
        · rw [slice_eq ⟨Nat.le_add_right _ _, Nat.le_of_not_lt hshort⟩,
            sliceFrom_eq (Nat.le_of_not_lt hshort)]
          simp only [hshort, ↓reduceIte, ↓reduceDIte, Option.bind_some]
          generalize Netmuxd.parseTcp _ = r
          cases r with
          | error e => rfl
          | ok th => rfl
      · simp only [htcp, ↓reduceIte, sliceFrom_eq hlen, Option.bind_some]
        split_ifs
        · rfl
        · rfl

theorem onPacket_eq (m : Mux) (alive : Nat → Bool) (pkt : Bytes) :
    onPacket m alive pkt = some (Netmuxd.onPacket m alive pkt) := by
  unfold onPacket Netmuxd.onPacket
  simp only [handleIncoming_eq, Option.bind_eq_bind, Option.bind_some]
  by_cases h : 2 ≤ m.link.state.version ∧ v2HeaderSize ≤ pkt.length
  · rw [show u16From pkt 14 16 = _ from u16From_eq (i := 14) h.2, if_pos h, dif_pos h]
    rfl
  · rw [if_neg h, dif_neg h]
    rfl

/-! ### Reading a frame and the handshake -/

/-- The buffer for a frame, once its head has been copied in. -/
theorem copy_head {head8 : Bytes} {length : Nat} (hlen : head8.length = 8) (h : 8 ≤ length) :
    copyFromSlice (List.replicate length 0) 0 v1HeaderSize head8 =
      some (head8 ++ List.replicate (length - 8) 0) := by
  have hfit : 0 ≤ v1HeaderSize ∧ v1HeaderSize ≤ (List.replicate length (0 : UInt8)).length ∧
      head8.length = v1HeaderSize - 0 :=
    ⟨Nat.zero_le _, by rw [List.length_replicate]; exact h, hlen⟩
  rw [copyFromSlice, if_pos hfit, List.take_zero, List.nil_append, List.drop_replicate]
  rfl

theorem readBody_eq (tailRead : Nat) {head8 : Bytes} (hlen : head8.length = 8)
    (protocol : UInt32) (length : Nat) (stream : Bytes) :
    readBody tailRead head8 protocol length stream =
      some (Reader.readBody tailRead head8 protocol length stream) := by
  unfold readBody Reader.readBody
  by_cases hp : Plausible length
  · have hlow : 8 ≤ length := Nat.le_trans (by decide) hp.1
    have hmore : v1HeaderSize < length := Nat.lt_of_lt_of_le (by decide) hp.1
    have hunread : sliceFrom (head8 ++ List.replicate (length - 8) 0) v1HeaderSize =
        some (List.replicate (length - 8) 0) := by
      rw [sliceFrom_eq (by rw [List.length_append, hlen]; exact Nat.le_add_right _ _)]
      exact congrArg some (List.drop_left' hlen)
    have hhead : (head8 ++ List.replicate (length - 8) 0).take v1HeaderSize = head8 :=
      List.take_left' hlen
    simp only [hp, not_true_eq_false, ↓reduceIte, frameBuf, hp.2, Option.bind_eq_bind,
      Option.bind_some, copy_head hlen hlow, hmore, hunread, hhead, List.length_replicate]
    rw [show length - v1HeaderSize = length - 8 from rfl]
    generalize readExact (length - 8) stream = r
    obtain e | ⟨body, rest⟩ := r
    · rfl
    · rfl
  · have htail : slice (stream.take (min tailRead 32) ++
        List.replicate (32 - (stream.take (min tailRead 32)).length) 0) 0
        (stream.take (min tailRead 32)).length = some (stream.take (min tailRead 32)) := by
      rw [slice_eq ⟨Nat.zero_le _, by rw [List.length_append]; exact Nat.le_add_right _ _⟩,
        Netmuxd.slice, List.take_left, List.drop_zero]
    simp only [hp, not_false_eq_true, ↓reduceIte, htail, Option.bind_eq_bind, Option.bind_some]
    rfl

/-- The two fields in the first 8 bytes, whatever their values. -/
theorem readFrame_fields {tailRead : Nat} {head8 stream rest : Bytes} {protocol length : UInt32}
    (hread : readExact v1HeaderSize stream = .ok (head8, rest))
    (hproto : u32From head8 0 4 = some protocol) (hlength : u32From head8 4 8 = some length) :
    readFrame tailRead stream = readBody tailRead head8 protocol length.toNat rest := by
  rw [readFrame, hread]
  simp only [hproto, hlength, Option.bind_eq_bind, Option.bind_some]

theorem readFrame_eq (tailRead : Nat) (stream : Bytes) :
    readFrame tailRead stream = some (Reader.readFrame tailRead stream) := by
  by_cases h : stream.length < v1HeaderSize
  · rw [readFrame, readExact_eof h, readFrame_short h]
  · have hlen : 8 ≤ stream.length := Nat.le_of_not_lt h
    have htake := take_head hlen
    have hread : readExact v1HeaderSize stream = .ok (stream.take 8, stream.drop 8) :=
      readExact_ok hlen
    have hproto : u32From (stream.take 8) 0 (0 + 4) =
        some (u32At stream 0 (Nat.le_trans (by decide) hlen)) := by
      rw [u32From_eq (by omega), u32At_take]
    have hlength : u32From (stream.take 8) 4 (4 + 4) = some (u32At stream 4 hlen) := by
      rw [u32From_eq (by omega), u32At_take]
    rw [readFrame_fields hread hproto hlength, readBody_eq tailRead htake,
      readFrame_head hlen, announced]

theorem handshake_eq (writeLeft : Option Nat) (pkt : Bytes) :
    handshake writeLeft pkt = some (Netmuxd.handshake writeLeft pkt) := by
  unfold handshake Netmuxd.handshake
  simp only [sendVersion_eq, sendRaw_eq, parseHeader_eq, Option.bind_eq_bind, Option.bind_some]
  generalize Netmuxd.sendVersion { writeLeft } 2 0 = r
  obtain ⟨e | ⟨⟩, l⟩ := r
  · rfl
  simp only
  symm
  split
  · rename_i e he
    rw [he]
    rfl
  · rename_i parsed hparsed
    have hsize := parseHeader_length hparsed
    conv_rhs => rw [hparsed]
    simp only [sliceFrom_eq hsize, Option.bind_some]
    by_cases hproto : parsed.protocol = Proto.version.toU32
    · by_cases hshort :
          (Netmuxd.sliceFrom pkt (muxHeaderSize l.state.version) hsize).length < 12
      · rw [if_neg (not_not.mpr hproto), dif_pos hshort, if_neg (not_not.mpr hproto),
          if_pos hshort]
        rfl
      · -- the numbers are kept opaque, so that nothing computes with them
        obtain ⟨major, hmajor⟩ : ∃ x, u32At (Netmuxd.sliceFrom pkt
            (muxHeaderSize l.state.version) hsize) 0 (by omega) = x := ⟨_, rfl⟩
        obtain ⟨minor, hminor⟩ : ∃ x, u32At (Netmuxd.sliceFrom pkt
            (muxHeaderSize l.state.version) hsize) 4 (by omega) = x := ⟨_, rfl⟩
        rw [if_neg (not_not.mpr hproto), dif_neg hshort, if_neg (not_not.mpr hproto),
          if_neg hshort, show u32From _ 0 4 = _ from u32From_eq (i := 0) (by omega),
          show u32From _ 4 8 = _ from u32From_eq (i := 4) (by omega), hmajor, hminor]
        by_cases htwo : major = 2
        · simp only [htwo, ne_eq, not_true_eq_false, ↓reduceIte, Option.bind_some]
          generalize Netmuxd.sendRaw _ 0 Proto.setup [] [7] true = r
          obtain ⟨e | ⟨⟩, l'⟩ := r
          · rfl
          · rfl
        · simp only [htwo, ne_eq, not_false_eq_true, ↓reduceIte, Option.bind_some]
          rfl
    · rw [if_pos hproto, if_pos hproto]
      rfl

end Netmuxd.Checked

namespace Netmuxd

open Lib Reader

/-! ### Packets that are turned away -/

/-- A packet too short for its headers, or one of another protocol than TCP. -/
def Unusable (version : UInt8) (pkt : Bytes) : Prop :=
  pkt.length < muxHeaderSize version ∨
    ∃ hdr, parseHeader pkt version = .ok hdr ∧
      (hdr.protocol = Proto.tcp.toU32 → pkt.length < muxHeaderSize version + tcpHeaderSize)

theorem splitTcp_unusable {version : UInt8} {pkt : Bytes} (h : Unusable version pkt) :
    (∃ e, splitTcp version pkt = .error e) ∨ splitTcp version pkt = .ok none := by
  rcases h with hshort | ⟨hdr, hparse, hproto⟩
  · have hparse : parseHeader pkt version = .error .muxHeaderTooShort := dif_pos hshort
    exact Or.inl ⟨.muxHeaderTooShort, by rw [splitTcp, hparse]⟩
  · by_cases htcp : hdr.protocol = Proto.tcp.toU32
    · refine Or.inl ⟨.tcpPacketTooShort, ?_⟩
      rw [splitTcp, hparse]
      simp only [htcp, ↓reduceIte, hproto htcp, ↓reduceDIte]
    · refine Or.inr ?_
      rw [splitTcp, hparse]
      simp only [htcp, ↓reduceIte]

theorem handleIncoming_unusable {m : Mux} {pkt : Bytes} (alive : Nat → Bool)
    (h : Unusable m.link.state.version pkt) : (handleIncoming m alive pkt).2 = m := by
  rcases splitTcp_unusable h with ⟨e, he⟩ | hnone
  · rw [handleIncoming, he]
  · rw [handleIncoming, hnone]

/-- All that such a packet leaves behind is its number. -/
theorem onPacket_unusable {m : Mux} {pkt : Bytes} (alive : Nat → Bool)
    (h : Unusable m.link.state.version pkt) :
    (onPacket m alive pkt).connections = m.connections ∧
      (onPacket m alive pkt).link.out = m.link.out := by
  obtain ⟨s, hs, heq⟩ := onPacket_eq m alive pkt
  rw [heq, handleIncoming_unusable alive (by rw [hs]; exact h)]
  exact ⟨rfl, rfl⟩

/-! ### Whole sessions -/

/-- What comes off the pipe is as long as a frame may be. -/
theorem readFrame_length {tailRead : Nat} {stream pkt rest : Bytes}
    (h : Reader.readFrame tailRead stream = .ok (pkt, rest)) : Plausible pkt.length := by
  by_cases hlen : stream.length < 8
  · rw [readFrame_short hlen] at h
    cases h
  · have h8 : 8 ≤ stream.length := Nat.le_of_not_lt hlen
    by_cases hp : Plausible (announced stream h8)
    · rw [readFrame_head h8, readBody, if_neg (not_not.mpr hp)] at h
      split at h
      · cases h
      · rename_i body rest' hread
        have hbody := readExact_length hread
        have hlow : 16 ≤ announced stream h8 := hp.1
        cases h
        rw [List.length_append, take_head h8, hbody, v1HeaderSize,
          Nat.add_sub_cancel' (by omega)]
        exact hp
    · obtain ⟨e, he⟩ := readFrame_refuses tailRead h8 hp
      rw [he] at h
      cases h

/-- The frames waiting for the loop are as long as frames may be. -/
def Session.Framed (s : Session) : Prop :=
  ∀ pkt, .ok pkt ∈ s.pktRx → Plausible pkt.length

/-- No move panics. -/
theorem Session.checked_isSome (s : Session) (mv : Session.Move) :
    ∃ s', s.checked mv = some s' := by
  cases mv with
  | read tailRead =>
      simp only [Session.checked, Checked.readFrame_eq, Option.map_some]
      exact ⟨_, rfl⟩
  | packet alive =>
      simp only [Session.checked, Checked.onPacket_eq, Option.map_some]
      split
      · exact ⟨_, rfl⟩
      · exact ⟨_, rfl⟩
  | readerGone order => exact ⟨_, rfl⟩
  | loop ev => exact ⟨_, rfl⟩

theorem Session.Framed.step {s s' : Session} {mv : Session.Move} (h : s.Framed)
    (hs : s.Step mv s') : s'.Framed := by
  intro pkt hpkt
  have hnext := hs.2
  cases mv with
  | read tailRead =>
      simp only [Session.checked, Checked.readFrame_eq, Option.map_some] at hnext
      cases hread : Reader.readFrame tailRead s.stream with
      | error e =>
          rw [hread] at hnext
          cases hnext
          rcases List.mem_append.mp hpkt with hold | hnew
          · exact h pkt hold
          · cases List.mem_singleton.mp hnew
      | ok r =>
          rw [hread] at hnext
          cases hnext
          rcases List.mem_append.mp hpkt with hold | hnew
          · exact h pkt hold
          · cases List.mem_singleton.mp hnew
            exact readFrame_length hread
  | packet alive =>
      simp only [Session.checked, Checked.onPacket_eq, Option.map_some] at hnext
      split at hnext
      · rename_i taken rest hrx
        cases hnext
        exact h pkt (by rw [hrx]; exact List.mem_cons_of_mem _ hpkt)
      · cases hnext
        exact h pkt hpkt
  | readerGone order =>
      cases hnext
      exact h pkt (List.mem_of_mem_tail hpkt)
  | loop ev =>
      cases hnext
      exact h pkt hpkt

theorem Session.enter_framed {left : Option Nat} {tailRead : Nat} {stream : Bytes} {s : Session}
    (h : Session.enter left tailRead stream = some (.ok (.ok s))) : s.pktRx = [] := by
  simp only [Session.enter, Checked.readFrame_eq, Checked.handshake_eq, Option.bind_eq_bind,
    Option.bind_some] at h
  split at h
  · cases h
  · rename_i pkt rest _
    cases hs : handshake left pkt with
    | error e =>
        rw [hs] at h
        cases h
    | ok link =>
        rw [hs] at h
        cases h
        rfl

/--
**No bytes from a device make the mux panic.**  Entering the loop comes to a result
for every byte stream.  In every session that follows, every frame is of a length the
buffers are made for, every move comes to a result, and a packet that is too short or
not TCP leaves the connections and the log of what has been sent as they were.
-/
theorem device_cannot_panic_the_mux (left : Option Nat) (tailRead : Nat) (stream : Bytes) :
    (∃ r, Session.enter left tailRead stream = some r) ∧
    ∀ s₀ tr s, Session.enter left tailRead stream = some (.ok (.ok s₀)) →
      Run Session.Step s₀ tr s → s.Framed ∧ ∀ mv, s.Ready mv → ∃ s', s.checked mv = some s' ∧
        ∀ alive pkt rest, mv = .packet alive → s.pktRx = .ok pkt :: rest →
          Unusable s.mux.link.state.version pkt →
          s'.mux.connections = s.mux.connections ∧ s'.mux.link.out = s.mux.link.out := by
  constructor
  · simp only [Session.enter, Checked.readFrame_eq, Checked.handshake_eq, Option.bind_eq_bind,
      Option.bind_some]
    split
    · exact ⟨_, rfl⟩
    · exact ⟨_, rfl⟩
  · intro s₀ tr s henter hrun
    have hstart : s₀.Framed := by
      intro pkt hpkt
      rw [Session.enter_framed henter] at hpkt
      cases hpkt
    refine ⟨hrun.invariant hstart (fun _ _ _ => Session.Framed.step), fun mv _ => ?_⟩
    obtain ⟨s', hs'⟩ := s.checked_isSome mv
    refine ⟨s', hs', ?_⟩
    rintro alive pkt rest rfl hrx hbad
    simp only [Session.checked, hrx, Checked.onPacket_eq, Option.map_some] at hs'
    cases hs'
    exact onPacket_unusable alive hbad

/-- A frame that says TCP and ends with its mux header. -/
def shortFrame : Bytes :=
  toBe32 Proto.tcp.toU32 ++ toBe32 16 ++ toBe32 muxMagic ++ toBe16 0 ++ toBe16 7

theorem shortFrame_framed : Framed shortFrame :=
  @framed_of_fields Proto.tcp.toU32 (toBe32 muxMagic ++ toBe16 0 ++ toBe16 7) (by decide)

theorem parseHeader_shortFrame : parseHeader shortFrame 2 = .ok ⟨Proto.tcp.toU32⟩ := by
  have hlen : ¬ shortFrame.length < muxHeaderSize 2 := show ¬ 16 < 16 by omega
  rw [parseHeader, dif_neg hlen]
  simp [shortFrame, toBe32, u32At]

theorem versionReply_framed : Framed versionReply :=
  @framed_of_fields Proto.version.toU32 (toBe32 2 ++ toBe32 0 ++ toBe32 0) (by decide)

/-- Sent right behind the VERSION reply, it does nothing. -/
theorem shortFrame_does_nothing : ∃ s₀ tr s s',
    Session.enter none 0 (versionReply ++ shortFrame) = some (.ok (.ok s₀)) ∧
      Run Session.Step s₀ tr s ∧ s.pktRx = [.ok shortFrame] ∧
      s.checked (.packet fun _ => true) = some s' ∧ s'.mux.link.out = s.mux.link.out := by
  let s₀ : Session := { stream := shortFrame, mux := Mux.start freshLink }
  let s : Session := { stream := [], pktRx := [.ok shortFrame], mux := Mux.start freshLink }
  have hreply : Reader.readFrame 0 (versionReply ++ shortFrame) = .ok (versionReply, shortFrame) :=
    readFrame_append 0 versionReply_framed
  have hshort : Reader.readFrame 0 (shortFrame ++ []) = .ok (shortFrame, []) :=
    readFrame_append 0 shortFrame_framed
  have henter : Session.enter none 0 (versionReply ++ shortFrame) = some (.ok (.ok s₀)) := by
    simp only [Session.enter, Checked.readFrame_eq, Checked.handshake_eq, hreply,
      handshake_versionReply, Option.bind_eq_bind, Option.bind_some]
    rfl
  have hstep : s₀.Step (.read 0) s := by
    refine ⟨⟨rfl, Nat.zero_lt_succ 15⟩, ?_⟩
    rw [List.append_nil] at hshort
    simp only [Session.checked, Checked.readFrame_eq, s₀, hshort, Option.map_some]
    rfl
  have hbad : Unusable s.mux.link.state.version shortFrame :=
    Or.inr ⟨_, parseHeader_shortFrame, fun _ => show 16 < 36 by omega⟩
  obtain ⟨s', hs', hquiet⟩ := ((device_cannot_panic_the_mux none 0 (versionReply ++ shortFrame)).2
    s₀ _ s henter (Run.single hstep)).2 (.packet fun _ => true) ⟨rfl, shortFrame, rfl⟩
  exact ⟨s₀, _, s, s', henter, Run.single hstep, rfl, hs', (hquiet _ _ _ rfl rfl hbad).2⟩

end Netmuxd
