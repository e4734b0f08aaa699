/-
Requests are answered one for one.

A turn that goes on to the next request has written one frame with the request's tag.
Nothing a handler calls on its way writes to the client or reads from it (`Quiet`), so a
turn's replies are those of its last step, and what is left is to see that each handler
ends in one (`Serves`).
-/
import Netmuxd.Daemon.Client
import Netmuxd.Lib.Run

namespace Netmuxd

open Lib Talk

/-! ### What a turn has said -/

abbrev ClientTrace := List (Exchange ClientCall.Answer)

/-- A frame that was written to the client in full. -/
@[simp] def replied : Exchange ClientCall.Answer → Option Bytes
  | ⟨.writeAll frame, true⟩ => some frame
  | _ => none

def replies (t : ClientTrace) : List Bytes :=
  t.filterMap replied

@[simp] theorem replies_nil : replies [] = [] := rfl

@[simp] theorem replies_cons (e : Exchange ClientCall.Answer) (t : ClientTrace) :
    replies (e :: t) = (replied e).toList ++ replies t := by
  unfold replies
  rw [List.filterMap_cons]
  cases replied e <;> rfl

@[simp] theorem replies_append (t t' : ClientTrace) : replies (t ++ t') = replies t ++ replies t' :=
  List.filterMap_append

/-- What was read from the client. -/
def taken : Exchange ClientCall.Answer → Bytes
  | ⟨.readExact _, some bytes⟩ => bytes.toList
  | _ => []

/-- A write to the client has failed. -/
def Broken (t : ClientTrace) : Prop :=
  ∃ frame, ⟨.writeAll frame, false⟩ ∈ t

@[simp] def ClientCall.ReadsClient : ClientCall → Bool
  | .readExact _ => true
  | _ => false

/-- A call that is not about the client's socket. -/
def ClientCall.Quiet : ClientCall → Prop
  | .readExact _ | .writeAll _ | .copyBidirectional => False
  | _ => True

structure IsFrame (frame : Bytes) (tag : UInt32) : Prop where
  header : packetHeaderSize ≤ frame.length
  size : sizeField frame = UInt32.ofNat frame.length
  tag : tagField frame = tag

/-- What idevice documents of packets. -/
structure Idevice.Documented {PairingFile : Type} (idevice : Idevice PairingFile) : Prop where
  parsed : ∀ packet parsed, idevice.parse packet = some parsed → parsed.tag = tagField packet
  bytes : ∀ packet, IsFrame (idevice.bytes packet) packet.tag
  intoPacket : ∀ response tag, (idevice.intoPacket response tag).tag = tag

/-- Upstream answers a request with its tag. -/
def Echoes (t : ClientTrace) : Prop :=
  ∀ before request header after,
    t = before ++ ⟨.writeUpstream request, true⟩ ::
      ⟨.readUpstream packetHeaderSize, some header⟩ :: after →
    tagField header.toList = tagField request

theorem Echoes.left {t t' : ClientTrace} (h : Echoes (t ++ t')) : Echoes t := by
  intro before request header after ht
  exact h before request header (after ++ t') (by simp [ht])

theorem Echoes.right {t t' : ClientTrace} (h : Echoes (t ++ t')) : Echoes t' := by
  intro before request header after ht
  exact h (t ++ before) request header after (by simp [ht])

theorem echoes_nil : Echoes [] := by
  intro before request header after h
  simp at h

theorem Echoes.cons {e : Exchange ClientCall.Answer} {t : ClientTrace} (h : Echoes t)
    (he : ∀ request header after, e = ⟨.writeUpstream request, true⟩ →
      t = ⟨.readUpstream packetHeaderSize, some header⟩ :: after →
      tagField header.toList = tagField request) : Echoes (e :: t) := by
  intro before request header after ht
  cases before with
  | nil =>
      obtain ⟨rfl, rfl⟩ := List.cons.inj ht
      exact he request header after rfl rfl
  | cons first before =>
      obtain ⟨-, rfl⟩ := List.cons.inj ht
      exact h before request header after rfl

/-! ### What is to hold of a turn -/

/-- The turn began with reading this packet, and did the rest without reading on. -/
structure Takes (t : ClientTrace) (packet : Bytes) (rest : ClientTrace) : Prop where
  reads : ∃ read, t = read ++ rest ∧ (∀ e ∈ read, e.1.ReadsClient = true) ∧
    read.flatMap taken = packet
  noMore : ∀ e ∈ rest, e.1.ReadsClient = false

/-- The request is of a type that is not known here, and there is no upstream to pass it on
to, or upstream has not answered. -/
structure Skips {PairingFile : Type} (idevice : Idevice PairingFile) (upstream : Bool)
    (packet : Bytes) (parsed : RawPacket) (rest : ClientTrace) : Prop where
  unknown : ∃ messageType, idevice.decode parsed = .error (.unknownMessageType messageType) ∧
    messageType ≠ "AddDevice" ∧ messageType ≠ "RemoveDevice"
  alone : upstream = false ∨ (forwardToUpstream packet).Runs rest none

/-- What a turn has done about the request it has read. -/
inductive Answered {PairingFile : Type} (idevice : Idevice PairingFile) (upstream : Bool)
    (t : ClientTrace) : Option ClientEnding → Prop
  /-- It has answered it with one frame, which carries its tag, and goes on. -/
  | answered {packet : Bytes} {parsed : RawPacket} {rest : ClientTrace} {frame : Bytes}
      (htakes : Takes t packet rest) (hparsed : idevice.parse packet = some parsed)
      (hreplies : replies t = [frame]) (hframe : IsFrame frame parsed.tag) :
      Answered idevice upstream t none
  | skipped {packet : Bytes} {parsed : RawPacket} {rest : ClientTrace}
      (htakes : Takes t packet rest) (hparsed : idevice.parse packet = some parsed)
      (hskips : Skips idevice upstream packet parsed rest) (hreplies : replies t = []) :
      Answered idevice upstream t none
  /-- A Connect has been refused, and the client does not take what is written to it. -/
  | refused {packet : Bytes} {parsed : RawPacket} {rest : ClientTrace} {deviceId : UInt64}
      {port : UInt16} (htakes : Takes t packet rest) (hparsed : idevice.parse packet = some parsed)
      (hconnect : idevice.decode parsed = .ok (.connect deviceId port)) (hbroken : Broken t) :
      Answered idevice upstream t none
  /-- It does not go on. -/
  | ended {ending : ClientEnding} (hreplies : (replies t).length ≤ 1)
      (hframe : ∀ frame ∈ replies t, ∃ packet parsed rest, Takes t packet rest ∧
        idevice.parse packet = some parsed ∧ IsFrame frame parsed.tag) :
      Answered idevice upstream t (some ending)

/-! ### Handlers -/

/-- What a turn does once it has read a request with this tag.  A request that is `excused`
may go unanswered if the client does not take the answer. -/
structure Serves (excused : Prop) (tag : UInt32) (t : ClientTrace)
    (ending : Option ClientEnding) : Prop where
  noRead : ∀ e ∈ t, e.1.ReadsClient = false
  atMostOne : (replies t).length ≤ 1
  tagged : ∀ frame ∈ replies t, IsFrame frame tag
  goesOn : ending = none → replies t ≠ [] ∨ excused ∧ Broken t

section
variable {PairingFile : Type} {idevice : Idevice PairingFile} {finder : PairingFileFinder}
  {upstream : Bool} {α : Type} {tag : UInt32} {excused : Prop}

theorem Quiet.replies {t : ClientTrace} (h : ∀ e ∈ t, e.1.Quiet) : replies t = [] := by
  refine List.filterMap_eq_nil_iff.mpr ?_
  rintro ⟨c, answer⟩ he
  have := h _ he
  cases c <;> simp_all [ClientCall.Quiet, replied]

theorem Quiet.noRead {t : ClientTrace} (h : ∀ e ∈ t, e.1.Quiet) :
    ∀ e ∈ t, e.1.ReadsClient = false := by
  rintro ⟨c, answer⟩ he
  have := h _ he
  cases c <;> simp_all [ClientCall.Quiet, ClientCall.ReadsClient]

/-- What is quiet beforehand makes no difference. -/
theorem Serves.after {t t' : ClientTrace} {ending : Option ClientEnding}
    (h : ∀ e ∈ t, e.1.Quiet) (hs : Serves excused tag t' ending) :
    Serves excused tag (t ++ t') ending := by
  have hreplies : Netmuxd.replies (t ++ t') = Netmuxd.replies t' := by
    rw [replies_append, Quiet.replies h, List.nil_append]
  refine ⟨?_, ?_, ?_, ?_⟩
  · intro e he
    rcases List.mem_append.mp he with he | he
    · exact Quiet.noRead h e he
    · exact hs.noRead e he
  · rw [hreplies]
    exact hs.atMostOne
  · rw [hreplies]
    exact hs.tagged
  · intro hgoes
    rw [hreplies]
    rcases hs.goesOn hgoes with hone | ⟨hexcused, frame, hbroken⟩
    · exact Or.inl hone
    · exact Or.inr ⟨hexcused, frame, List.mem_append_right _ hbroken⟩

theorem Serves.excuse {excused' : Prop} {t : ClientTrace} {ending : Option ClientEnding}
    (hs : Serves excused tag t ending) (h : excused → excused') : Serves excused' tag t ending :=
  ⟨hs.noRead, hs.atMostOne, hs.tagged, fun hgoes => (hs.goesOn hgoes).imp_right (And.imp_left h)⟩

/-- A handler that is quiet until it knows what to do. -/
theorem serves_bind_of {m : Client α} {f : α → Client (Option ClientEnding)} {R : α → Prop}
    (hm : m.Meets fun t a => (∀ e ∈ t, e.1.Quiet) ∧ R a)
    (hf : ∀ a, R a → (f a).Meets (Serves excused tag)) : (m >>= f).Meets (Serves excused tag) := by
  rw [meets_bind]
  exact hm.imp fun t a ht => (hf a ht.2).imp fun t' ending hs => hs.after ht.1

theorem serves_bind {m : Client α} {f : α → Client (Option ClientEnding)}
    (hm : m.Only ClientCall.Quiet) (hf : ∀ a, (f a).Meets (Serves excused tag)) :
    (m >>= f).Meets (Serves excused tag) :=
  serves_bind_of (R := fun _ => True) (Meets.imp hm fun _ _ ht => ⟨ht, trivial⟩) fun a _ => hf a

theorem closed_serves (tag : UInt32) :
    (pure (some .closed) : Client (Option ClientEnding)).Meets (Serves excused tag) := by
  rw [meets_pure]
  constructor <;> simp

theorem reply_serves {frame : Bytes} (h : IsFrame frame tag) :
    (reply frame).Meets (Serves excused tag) := by
  unfold reply
  simp only [meets_bind, meets_perform, Bool.forall_bool]
  constructor <;> simp <;> constructor <;> simp [h]

section
variable (hdoc : idevice.Documented)
include hdoc

theorem responseFrame (response : UsbmuxdServerResponse) (tag : UInt32) :
    IsFrame (idevice.bytes (idevice.intoPacket response tag)) tag := by
  have h := hdoc.bytes (idevice.intoPacket response tag)
  rwa [hdoc.intoPacket] at h

theorem refuse_serves (tag : UInt32) : (refuse idevice tag).Meets (Serves True tag) := by
  have hframe : IsFrame (resultFrame idevice 1 tag) tag := responseFrame hdoc _ tag
  unfold refuse
  simp only [meets_bind, meets_perform, meets_pure, Bool.forall_bool]
  constructor <;> constructor <;> simp [Broken, hframe]

theorem runListen_serves (tag : UInt32) : (runListen idevice tag).Meets (Serves excused tag) := by
  have hframe : IsFrame (resultFrame idevice 0 tag) tag := responseFrame hdoc _ tag
  unfold runListen
  simp
  refine ⟨?_, ?_, ?_⟩ <;> constructor <;> simp [hframe]

end

/-! ### Quiet programs -/

theorem getPairingRecord_quiet (udid : String) :
    (finder.getPairingRecord idevice udid).Only ClientCall.Quiet := by
  unfold PairingFileFinder.getPairingRecord Only
  simp [ClientCall.Quiet]
  intro contents
  cases contents <;> simp

theorem identityField_quiet (plist : Dictionary) (key : String) :
    (PairingFileFinder.identityField plist key).Only ClientCall.Quiet := by
  unfold PairingFileFinder.identityField Only
  cases plist.getString key <;> simp [ClientCall.Quiet]

theorem readIdentity_quiet : (finder.readIdentity idevice).Only ClientCall.Quiet := by
  unfold PairingFileFinder.readIdentity Only
  simp [ClientCall.Quiet]
  intro contents
  cases contents <;> simp

theorem createParent_quiet (path : Path) : (createParent path).Only ClientCall.Quiet := by
  unfold createParent
  split
  · exact only_perform trivial
  · exact only_pure _

theorem persistIdentity_quiet (plist : Dictionary) :
    (finder.persistIdentity idevice plist).Only ClientCall.Quiet := by
  unfold PairingFileFinder.persistIdentity
  refine Only.bind (createParent_quiet _) fun _ => ?_
  split
  · exact only_pure _
  · exact Only.bind (only_perform trivial) fun _ => only_pure _

theorem getBuid_quiet : (finder.getBuid idevice).Only ClientCall.Quiet := by
  unfold PairingFileFinder.getBuid PairingFileFinder.getHostIdentity
  refine Only.bind (Only.bind readIdentity_quiet fun plist => ?_) fun identity => ?_
  · cases plist with
    | none => exact only_pure _
    | some plist =>
        refine Only.bind (identityField_quiet _ _) fun hostId => ?_
        refine Only.bind (identityField_quiet _ _) fun systemBuid => ?_
        dsimp only
        split
        · exact Only.bind (persistIdentity_quiet _) fun _ => only_pure _
        · exact only_pure _
  · cases identity <;> exact only_pure _

theorem saveUdid_quiet (pairRecordId : Option String) (deviceId : Option UInt64) :
    (saveUdid pairRecordId deviceId).Only ClientCall.Quiet := by
  unfold saveUdid
  split
  · exact only_pure _
  · exact only_pure _
  · refine Only.bind (only_perform trivial) fun lookup => ?_
    split <;> exact only_pure _

theorem dialDevice_quiet (lookup : DeviceConnection) (port : UInt16) :
    (dialDevice lookup port).Only ClientCall.Quiet := by
  unfold dialDevice
  split
  · split
    · exact only_perform trivial
    · exact only_pure _
  · split
    · split
      · exact only_perform trivial
      · exact only_pure _
    · exact only_pure _

/-! ### Upstream -/

theorem u32FromLe_append {bytes : Bytes} (h : 4 ≤ bytes.length) (rest : Bytes) :
    u32FromLe (bytes ++ rest) = u32FromLe bytes := by
  match bytes, h with
  | a :: b :: c :: d :: _, _ => rfl

theorem sizeField_append {bytes : Bytes} (h : packetHeaderSize ≤ bytes.length) (rest : Bytes) :
    sizeField (bytes ++ rest) = sizeField bytes := by
  unfold packetHeaderSize at h
  exact u32FromLe_append (by omega) rest

theorem tagField_append {bytes : Bytes} (h : packetHeaderSize ≤ bytes.length) (rest : Bytes) :
    tagField (bytes ++ rest) = tagField bytes := by
  unfold packetHeaderSize at h
  unfold tagField
  rw [List.drop_append_of_le_length (by omega)]
  exact u32FromLe_append (by simp; omega) rest

/-- A header with as much behind it as its size asks for. -/
theorem isFrame_of_size {header : Vector UInt8 packetHeaderSize} {n : Nat} (body : Vector UInt8 n)
    (hle : packetHeaderSize ≤ (sizeField header.toList).toNat)
    (hn : n = (sizeField header.toList).toNat - packetHeaderSize) :
    IsFrame (header.toList ++ body.toList) (tagField header.toList) := by
  have hheader : packetHeaderSize ≤ header.toList.length := by simp
  refine ⟨?_, ?_, tagField_append hheader _⟩
  · simp
  · have hlen : (header.toList ++ body.toList).length = (sizeField header.toList).toNat := by
      simp
      omega
    rw [sizeField_append hheader, hlen, UInt32.ofNat_toNat]

theorem readFrame_meets : readFrame.Meets fun t frame =>
    (∀ e ∈ t, e.1.Quiet) ∧ ∀ bytes, frame = some bytes →
      ∃ header rest, t = ⟨.readUpstream packetHeaderSize, some header⟩ :: rest ∧
        IsFrame bytes (tagField header.toList) := by
  unfold readFrame
  rw [meets_bind, meets_perform]
  intro header
  cases header with
  | none => simp [ClientCall.Quiet]
  | some header =>
      dsimp only
      split
      · simp [ClientCall.Quiet]
      · rename_i hsize
        rw [meets_bind, meets_perform]
        intro body
        cases body with
        | none => simp [ClientCall.Quiet]
        | some body =>
            rw [meets_pure]
            refine ⟨by simp [ClientCall.Quiet], ?_⟩
            intro bytes hbytes
            obtain rfl := Option.some.inj hbytes
            exact ⟨header, _, rfl, isFrame_of_size body (by omega) rfl⟩

theorem forwardToUpstream_meets (request : Bytes) : (forwardToUpstream request).Meets fun t frame =>
    (∀ e ∈ t, e.1.Quiet) ∧ ∀ bytes, frame = some bytes → Echoes t →
      IsFrame bytes (tagField request) := by
  unfold forwardToUpstream
  simp
  refine ⟨by simp [ClientCall.Quiet], by simp [ClientCall.Quiet], ?_⟩
  refine readFrame_meets.imp fun t frame h => ?_
  obtain ⟨hquiet, hframe⟩ := h
  refine ⟨⟨trivial, trivial, hquiet⟩, fun bytes hbytes hechoes => ?_⟩
  obtain ⟨header, rest, rfl, hbytes⟩ := hframe bytes hbytes
  rwa [hechoes [⟨.connectUpstream, true⟩] request header rest rfl] at hbytes

/-- What upstream's list is merged into is a response of its own. -/
theorem listDevicesMerged_meets (hdoc : idevice.Documented) (request : Bytes)
    (networkDevices : List Value) (tag : UInt32) :
    (listDevicesMerged idevice request networkDevices tag).Meets fun t out =>
      (∀ e ∈ t, e.1.Quiet) ∧ ∀ bytes, out = some bytes → IsFrame bytes tag := by
  unfold listDevicesMerged
  simp
  refine ⟨by simp [ClientCall.Quiet], by simp [ClientCall.Quiet], ?_⟩
  refine readFrame_meets.imp fun t frame h => ?_
  obtain ⟨hquiet, -⟩ := h
  cases frame with
  | none =>
      rw [meets_pure]
      simpa [ClientCall.Quiet] using hquiet
  | some frame =>
      dsimp only
      split
      · rw [meets_pure]
        refine ⟨by simpa [ClientCall.Quiet] using hquiet, fun bytes hbytes => ?_⟩
        obtain rfl := Option.some.inj hbytes
        exact responseFrame hdoc _ tag
      · rw [meets_pure]
        simpa [ClientCall.Quiet] using hquiet

/-! ### The handlers -/

theorem forwardOr_meets {buffer : Bytes} {fallback : Client (Option ClientEnding)}
    {Q : ClientTrace → Option ClientEnding → Prop}
    (hreply : ∀ t ending, (Echoes t → Serves False (tagField buffer) t ending) → Q t ending)
    (halone : upstream = false → fallback.Meets Q)
    (hdead : ∀ t, (forwardToUpstream buffer).Runs t none →
      fallback.Meets fun t' ending => Q (t ++ t') ending) :
    (forwardOr upstream buffer fallback).Meets Q := by
  unfold forwardOr
  cases upstream with
  | false => exact halone rfl
  | true =>
      rw [if_pos rfl, meets_bind]
      intro t frame hrun
      cases frame with
      | none => exact hdead t hrun
      | some frame =>
          obtain ⟨hquiet, hframe⟩ := forwardToUpstream_meets buffer t _ hrun
          intro t' ending hrun'
          refine hreply _ _ fun hechoes => ?_
          exact (reply_serves (hframe frame rfl hechoes.left) t' ending hrun').after hquiet

/-- A request that is passed on to upstream, and has a local equivalent. -/
theorem forwardOr_serves {buffer : Bytes} {fallback : Client (Option ClientEnding)}
    (hfallback : fallback.Meets (Serves excused (tagField buffer))) :
    (forwardOr upstream buffer fallback).Meets fun t ending =>
      Echoes t → Serves excused (tagField buffer) t ending := by
  refine forwardOr_meets (fun t ending hs hechoes => (hs hechoes).excuse False.elim) (fun _ => ?_)
    fun t hrun => ?_
  · exact hfallback.imp fun _ _ hs _ => hs
  · have hquiet := (forwardToUpstream_meets buffer t none hrun).1
    exact hfallback.imp fun _ _ hs _ => hs.after hquiet

theorem handleRemoveDevice_serves (parsed : RawPacket) :
    (do handleRemoveDevice parsed; return some .closed : Client (Option ClientEnding)).Meets
      (Serves False parsed.tag) := by
  refine serves_bind ?_ fun _ => closed_serves _
  unfold handleRemoveDevice
  split
  · exact Only.bind (only_perform trivial) fun _ => only_pure _
  · exact only_pure _

theorem replies_of_reads {t : ClientTrace} (h : ∀ e ∈ t, e.1.ReadsClient = true) :
    replies t = [] := by
  refine List.filterMap_eq_nil_iff.mpr ?_
  rintro ⟨c, answer⟩ he
  have := h _ he
  cases c <;> simp_all

/-- A request that was served has been answered, unless the turn was the last. -/
theorem Serves.answered {t rest : ClientTrace} {ending : Option ClientEnding} {packet : Bytes}
    {parsed : RawPacket} (hs : Serves excused parsed.tag rest ending)
    (hreads : ∀ e ∈ t, e.1.ReadsClient = true) (htaken : t.flatMap taken = packet)
    (hparsed : idevice.parse packet = some parsed)
    (hexcused : excused → ∃ deviceId port, idevice.decode parsed = .ok (.connect deviceId port)) :
    Answered idevice upstream (t ++ rest) ending := by
  have htakes : Takes (t ++ rest) packet rest := ⟨⟨t, rfl, hreads, htaken⟩, hs.noRead⟩
  have hreplies : replies (t ++ rest) = replies rest := by
    rw [replies_append, replies_of_reads hreads, List.nil_append]
  cases ending with
  | none =>
      rcases hs.goesOn rfl with hne | ⟨hbreaks, frame, hbroken⟩
      · obtain ⟨frame, hframe⟩ := List.length_eq_one_iff.mp
          (Nat.le_antisymm hs.atMostOne (List.length_pos_iff.mpr hne))
        exact .answered htakes hparsed (hreplies.trans hframe) (hs.tagged frame (by simp [hframe]))
      · obtain ⟨deviceId, port, hconnect⟩ := hexcused hbreaks
        exact .refused htakes hparsed hconnect ⟨frame, List.mem_append_right _ hbroken⟩
  | some ending =>
      refine .ended (hreplies ▸ hs.atMostOne) fun frame hframe => ?_
      rw [hreplies] at hframe
      exact ⟨packet, parsed, rest, htakes, hparsed, hs.tagged frame hframe⟩

theorem readPacket_meets : readPacket.Meets fun t packet =>
    (∀ e ∈ t, e.1.ReadsClient = true) ∧ ∀ bytes, packet = some bytes → t.flatMap taken = bytes := by
  unfold readPacket
  rw [meets_bind, meets_perform]
  intro header
  cases header with
  | none => simp
  | some header =>
      dsimp only
      split
      · simp
      · split
        · simp [taken]
        · rw [meets_bind, meets_perform]
          intro body
          cases body <;> simp [taken]

section
variable (hdoc : idevice.Documented)
include hdoc

theorem serveListDevices_serves (buffer : Bytes) (tag : UInt32) :
    (serveListDevices idevice upstream buffer tag).Meets (Serves excused tag) := by
  unfold serveListDevices
  refine serves_bind (only_perform trivial) fun res => ?_
  cases res with
  | none => exact closed_serves tag
  | some res =>
      have hown := hdoc.bytes { version := 1, message := 8, tag, plist := res }
      dsimp only
      split
      · refine serves_bind_of (listDevicesMerged_meets hdoc _ _ tag) fun out hout => ?_
        cases out with
        | none => exact reply_serves hown
        | some out => exact reply_serves (hout out rfl)
      · exact reply_serves hown

theorem readPairRecord_serves (pairRecordId : String) (tag : UInt32) :
    (readPairRecord idevice finder pairRecordId tag).Meets (Serves excused tag) := by
  unfold readPairRecord
  refine serves_bind (getPairingRecord_quiet _) fun pairFile => ?_
  cases pairFile with
  | none => exact closed_serves tag
  | some pairFile =>
      dsimp only
      split
      · exact reply_serves (responseFrame hdoc _ tag)
      · exact closed_serves tag

theorem savePairRecord_serves (pairRecordId : Option String) (deviceId : Option UInt64)
    (pairRecordData : Bytes) (tag : UInt32) :
    (savePairRecord idevice finder pairRecordId deviceId pairRecordData tag).Meets
      (Serves excused tag) := by
  unfold savePairRecord
  refine serves_bind (saveUdid_quiet _ _) fun udid => ?_
  cases udid with
  | none => exact closed_serves tag
  | some udid =>
      refine serves_bind (createParent_quiet _) fun _ => ?_
      refine serves_bind (only_perform trivial) fun saved => ?_
      exact reply_serves (responseFrame hdoc _ tag)

theorem readBuid_serves (tag : UInt32) :
    (readBuid idevice finder tag).Meets (Serves excused tag) := by
  unfold readBuid
  refine serves_bind getBuid_quiet fun buid => ?_
  cases buid with
  | none => exact closed_serves tag
  | some buid => exact reply_serves (responseFrame hdoc _ tag)

theorem connect_serves (deviceId : UInt64) (port : UInt16) (buffer : Bytes) (tag : UInt32) :
    (connect idevice upstream deviceId port buffer tag).Meets (Serves True tag) := by
  have hrefuse : (refuse idevice tag).Meets (Serves True tag) := refuse_serves hdoc tag
  unfold connect
  split
  · refine serves_bind (only_perform trivial) fun connected => ?_
    cases connected
    · simpa using hrefuse
    refine serves_bind (only_perform trivial) fun wrote => ?_
    cases wrote
    · simpa using hrefuse
    simp
    intro _
    constructor <;> simp
  · refine serves_bind (only_perform trivial) fun lookup => ?_
    cases lookup with
    | none => exact closed_serves tag
    | some lookup =>
        cases lookup with
        | none => exact hrefuse
        | some lookup =>
            refine serves_bind (dialDevice_quiet lookup port) fun dialled => ?_
            cases dialled
            · simpa using hrefuse
            have hframe : IsFrame (resultFrame idevice 0 tag) tag := responseFrame hdoc _ tag
            simp
            refine ⟨?_, ?_, fun _ => ?_⟩ <;> constructor <;> simp [hframe]

theorem serve_serves (buffer : Bytes) (request : UsbmuxdServerRequest) :
    (serve idevice finder upstream buffer (tagField buffer) request).Meets fun t ending =>
      Echoes t → Serves (∃ deviceId port, request = .connect deviceId port) (tagField buffer) t
        ending := by
  cases request with
  | listDevices => exact (serveListDevices_serves hdoc buffer _).imp fun _ _ hs _ => hs
  | listen => exact (runListen_serves hdoc _).imp fun _ _ hs _ => hs
  | readPairRecord pairRecordId => exact forwardOr_serves (readPairRecord_serves hdoc _ _)
  | savePairRecord pairRecordId deviceId pairRecordData =>
      exact forwardOr_serves (savePairRecord_serves hdoc _ _ _ _)
  | readBuid => exact forwardOr_serves (readBuid_serves hdoc _)
  | connect deviceId port =>
      exact (connect_serves hdoc _ _ buffer _).imp fun _ _ hs _ =>
        hs.excuse fun _ => ⟨deviceId, port, rfl⟩

/-! ### A turn -/

theorem handleAddDevice_serves (parsed : RawPacket) :
    (do handleAddDevice idevice parsed; return some .closed : Client (Option ClientEnding)).Meets
      (Serves False parsed.tag) := by
  have hclosed : Serves False parsed.tag [] (some .closed) := by
    constructor <;> simp
  rw [meets_bind]
  simp only [meets_pure, List.append_nil]
  unfold handleAddDevice
  split
  · rw [meets_bind, meets_perform]
    intro res
    cases res with
    | none =>
        rw [meets_pure]
        constructor <;> simp
    | some res =>
        have hframe := hdoc.bytes { version := 1, message := 8, tag := parsed.tag, plist := res }
        simp
        constructor <;> constructor <;> simp [hframe]
  · exact meets_pure.mpr hclosed

theorem handleStream_meets : (handleStream idevice finder upstream).Meets fun t ending =>
    Echoes t → Answered idevice upstream t ending := by
  unfold handleStream
  rw [meets_bind]
  refine readPacket_meets.imp fun t packet h => ?_
  obtain ⟨hreads, htaken⟩ := h
  have hnone := replies_of_reads hreads
  cases packet with
  | none =>
      rw [meets_pure]
      exact fun _ => .ended (by simp [hnone]) (by simp [hnone])
  | some buffer =>
      have htaken := htaken buffer rfl
      dsimp only
      cases hparse : idevice.parse buffer with
      | none =>
          rw [meets_pure]
          exact fun _ => .ended (by simp [hnone]) (by simp [hnone])
      | some parsed =>
          have htag := hdoc.parsed buffer parsed hparse
          dsimp only
          split
          · rename_i request hdecode
            rw [htag]
            refine (serve_serves hdoc buffer request).imp fun rest ending hs hechoes => ?_
            rw [← htag] at hs
            refine (hs hechoes.right).answered hreads htaken hparse ?_
            rintro ⟨deviceId, port, rfl⟩
            exact ⟨deviceId, port, hdecode⟩
          · rename_i messageType hdecode
            split
            · exact (handleAddDevice_serves hdoc parsed).imp fun rest ending hs _ =>
                hs.answered hreads htaken hparse False.elim
            · split
              · exact (handleRemoveDevice_serves parsed).imp fun rest ending hs _ =>
                  hs.answered hreads htaken hparse False.elim
              · rename_i hadd hremove
                have hunknown : ∃ messageType,
                    idevice.decode parsed = .error (.unknownMessageType messageType) ∧
                      messageType ≠ "AddDevice" ∧ messageType ≠ "RemoveDevice" :=
                  ⟨messageType, hdecode, hadd, hremove⟩
                refine forwardOr_meets ?_ ?_ ?_
                · intro rest ending hs hechoes
                  rw [← htag] at hs
                  exact (hs hechoes.right).answered hreads htaken hparse False.elim
                · intro halone
                  rw [meets_pure]
                  exact fun _ => .skipped ⟨⟨t, rfl, hreads, htaken⟩, by simp⟩ hparse
                    ⟨hunknown, .inl halone⟩ (by simp [hnone])
                · intro rest hrun
                  have hquiet := (forwardToUpstream_meets buffer rest none hrun).1
                  rw [meets_pure, List.append_nil]
                  exact fun _ => .skipped ⟨⟨t, rfl, hreads, htaken⟩, Quiet.noRead hquiet⟩ hparse
                    ⟨hunknown, .inr hrun⟩ (by simp [hnone, Quiet.replies hquiet])
          · rw [meets_pure]
            exact fun _ => .ended (by simp [hnone]) (by simp [hnone])

end

/-- **Requests are answered.**  On every connection each turn that goes on to the next
request has answered its own with one frame, or has skipped a request that nobody knows;
and a connection that has not come to its end takes a further turn, whatever it meets. -/
theorem requests_are_answered (hdoc : idevice.Documented)
    {tr : List (Option ClientEnding × ClientTrace × Option ClientEnding)}
    {ending : Option ClientEnding}
    (hrun : Run (HandleStream.Step idevice finder upstream) none tr ending)
    (hechoes : EveryStep (fun _ t _ => Echoes t) tr) :
    EveryStep (fun _ t ending' => Answered idevice upstream t ending') tr ∧
      (ending = none → ∀ oracle, ∃ t ending',
        HandleStream.Step idevice finder upstream ending t ending' ∧ Obeys oracle [] t) := by
  constructor
  · refine Run.everyStep_of (P := fun _ => True) trivial (fun _ _ _ _ _ _ => trivial) ?_ hrun
      hechoes
    intro ending t ending' _ hstep hechoes
    exact handleStream_meets hdoc t ending' hstep.2 hechoes
  · intro hopen oracle
    exact ⟨_, _, ⟨hopen, runs_follow oracle [] _⟩, obeys_follow oracle [] _⟩

end

/-! ### Two connections -/

/-- A property list of a single entry. -/
def plistBody (key value : String) : Bytes :=
  ("<plist version=\"1.0\"><dict><key>" ++ key ++ "</key><string>" ++ value ++
    "</string></dict></plist>").toList.map fun c => UInt8.ofNat c.toNat

def u32ToLe (x : UInt32) : Bytes :=
  (toBe32 x).reverse

theorem u32FromLe_u32ToLe (x : UInt32) (rest : Bytes) : u32FromLe (u32ToLe x ++ rest) = x := by
  apply UInt32.toNat_inj.mp
  have hx := x.toNat_lt
  simp only [u32ToLe, toBe32, List.reverse_cons, List.reverse_nil, List.nil_append,
    List.cons_append, u32FromLe, UInt32.toNat_ofNat', UInt8.toNat_ofNat']
  omega

/-- An idevice that reads two requests and writes packets without their property list. -/
def plainIdevice : Idevice Bytes where
  parse packet :=
    if (sizeField packet).toNat = packet.length then
      (["ReadBUID", "Hello"].find? fun messageType =>
        plistBody "MessageType" messageType = packet.drop 16).map fun messageType =>
        { version := u32FromLe (packet.drop 4)
          message := u32FromLe (packet.drop 8)
          tag := tagField packet
          plist := [("MessageType", .string messageType)] }
    else none
  bytes packet :=
    u32ToLe 16 ++ u32ToLe packet.version ++ u32ToLe packet.message ++ u32ToLe packet.tag
  decode packet :=
    match packet.plist.getString "MessageType" with
    | none => .error .malformed
    | some "ReadBUID" => .ok .readBuid
    | some messageType => .error (.unknownMessageType messageType)
  intoPacket _ tag := { version := 1, message := 8, tag, plist := [] }
  pairingFile := some
  serialize := some
  plist _ := none
  xml _ := none
  parseIp _ := none

theorem plainIdevice_documented : plainIdevice.Documented := by
  refine ⟨?_, ?_, fun _ _ => rfl⟩
  · intro packet parsed h
    simp only [plainIdevice] at h
    split at h
    · obtain ⟨messageType, -, rfl⟩ := Option.map_eq_some_iff.mp h
      rfl
    · cases h
  · intro packet
    exact ⟨Nat.le_refl 16, u32FromLe_u32ToLe 16 _, u32FromLe_u32ToLe packet.tag []⟩

def defaultFinder : PairingFileFinder :=
  { plistStorage := "/var/lib/lockdown", nulFree := by decide }

theorem readPacket_runs (header : Vector UInt8 packetHeaderSize)
    (body : Vector UInt8 ((sizeField header.toList).toNat - packetHeaderSize))
    (hsize : packetHeaderSize < (sizeField header.toList).toNat)
    (hmax : (sizeField header.toList).toNat ≤ maxPacketSize) :
    readPacket.Runs
      [⟨.readExact packetHeaderSize, some header⟩,
        ⟨.readExact ((sizeField header.toList).toNat - packetHeaderSize), some body⟩]
      (some (header.toList ++ body.toList)) := by
  unfold readPacket
  refine Runs.perform_bind _ ?_
  dsimp only
  rw [if_neg (by omega), if_neg (by omega)]
  exact Runs.perform_bind _ (.done _)

/-! A ReadBUID that upstream answers. -/

def buidHeader : Vector UInt8 packetHeaderSize :=
  #v[105, 0, 0, 0, 1, 0, 0, 0, 8, 0, 0, 0, 7, 0, 0, 0]

def buidBody : Vector UInt8 ((sizeField buidHeader.toList).toNat - packetHeaderSize) :=
  ⟨(plistBody "MessageType" "ReadBUID").toArray, by decide⟩

def replyHeader : Vector UInt8 packetHeaderSize :=
  #v[91, 0, 0, 0, 1, 0, 0, 0, 8, 0, 0, 0, 7, 0, 0, 0]

def replyBody : Vector UInt8 ((sizeField replyHeader.toList).toNat - packetHeaderSize) :=
  ⟨(plistBody "BUID" "1").toArray, by decide⟩

def buidTurn : ClientTrace :=
  [⟨.readExact packetHeaderSize, some buidHeader⟩, ⟨.readExact _, some buidBody⟩] ++
    ([⟨.connectUpstream, true⟩, ⟨.writeUpstream (buidHeader.toList ++ buidBody.toList), true⟩,
      ⟨.readUpstream packetHeaderSize, some replyHeader⟩, ⟨.readUpstream _, some replyBody⟩] ++
    [⟨.writeAll (replyHeader.toList ++ replyBody.toList), true⟩])

theorem buidTurn_runs : (handleStream plainIdevice defaultFinder true).Runs buidTurn none := by
  have hread := readPacket_runs buidHeader buidBody (by decide) (by decide)
  have hparse : plainIdevice.parse (buidHeader.toList ++ buidBody.toList) =
    some { version := 1, message := 8, tag := 7, plist := [("MessageType", .string "ReadBUID")] } :=
    rfl
  have hforward : (forwardToUpstream (buidHeader.toList ++ buidBody.toList)).Runs
      [⟨.connectUpstream, true⟩, ⟨.writeUpstream (buidHeader.toList ++ buidBody.toList), true⟩,
        ⟨.readUpstream packetHeaderSize, some replyHeader⟩, ⟨.readUpstream _, some replyBody⟩]
      (some (replyHeader.toList ++ replyBody.toList)) := by
    refine Runs.perform_bind _ (Runs.perform_bind _ (Runs.perform_bind _ ?_))
    dsimp only
    rw [if_neg (by decide)]
    exact Runs.perform_bind _ (.done _)
  refine hread.bind ?_
  dsimp only
  rw [hparse]
  exact hforward.bind (Runs.perform_bind _ (.done _))

theorem buidTurn_echoes : Echoes buidTurn := by
  refine Echoes.cons (Echoes.cons (Echoes.cons (Echoes.cons (Echoes.cons (Echoes.cons
    (Echoes.cons echoes_nil ?_) ?_) ?_) ?_) ?_) ?_) ?_ <;> rintro request header after ⟨⟩ ⟨⟩
  rfl

theorem buid_is_answered : EveryStep (fun _ t ending => Answered plainIdevice true t ending)
    [(none, buidTurn, none)] :=
  (requests_are_answered plainIdevice_documented (Run.single ⟨rfl, buidTurn_runs⟩)
    (everyStep_single buidTurn_echoes)).1

/-! A Hello with no upstream to pass it on to. -/

def helloHeader : Vector UInt8 packetHeaderSize :=
  #v[102, 0, 0, 0, 1, 0, 0, 0, 8, 0, 0, 0, 7, 0, 0, 0]

def helloBody : Vector UInt8 ((sizeField helloHeader.toList).toNat - packetHeaderSize) :=
  ⟨(plistBody "MessageType" "Hello").toArray, by decide⟩

def helloTurn : ClientTrace :=
  [⟨.readExact packetHeaderSize, some helloHeader⟩, ⟨.readExact _, some helloBody⟩]

/-- A request of a type that is not known goes unanswered, and the next one is awaited. -/
theorem hello_is_not_answered :
    Run (HandleStream.Step plainIdevice defaultFinder false) none [(none, helloTurn, none)] none ∧
      helloTurn.flatMap taken = helloHeader.toList ++ helloBody.toList ∧
      replies helloTurn = [] ∧ ¬ Broken helloTurn := by
  have hread := readPacket_runs helloHeader helloBody (by decide) (by decide)
  have hparse : plainIdevice.parse (helloHeader.toList ++ helloBody.toList) =
    some { version := 1, message := 8, tag := 7, plist := [("MessageType", .string "Hello")] } :=
  rfl
  have hturn : (handleStream plainIdevice defaultFinder false).Runs (helloTurn ++ []) none := by
    refine hread.bind ?_
    dsimp only
    rw [hparse]
    exact .done _
  exact ⟨Run.single ⟨rfl, hturn⟩, rfl, rfl, by simp [Broken, helloTurn]⟩

end Netmuxd
