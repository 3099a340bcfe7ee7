import TcpOffload.ArpServer.Receiver

/-!
# The ARP sender

`ArpPkgSender` of `arp_server.cpp`: replies come before requests of our own,
and every packet is one word.
-/

namespace TcpOffload

/-- `BROADCAST_MAC`. -/
def broadcastMac : MacAddr := 0xFFFFFFFFFFFF

/-- The fields of a packet, in the order of the word. -/
structure ArpPacket where
  dstMacAddr : MacAddr
  srcMacAddr : MacAddr
  ethType : BitVec 16
  arpHwType : BitVec 16
  arpProtoType : BitVec 16
  arpHwLen : BitVec 8
  arpProtoLen : BitVec 8
  arpOpCode : BitVec 16
  arpSrcHwAddr : MacAddr
  arpSrcProtoAddr : IpAddr
  arpDstHwAddr : MacAddr
  arpDstProtoAddr : IpAddr
deriving DecidableEq, Repr

namespace ArpPacket

/-- The word of a packet, padded to 60 bytes. -/
def word (packet : ArpPacket) : NetAXISWord where
  data :=
    (0x454546464F43 : BitVec 128) ++ (0 : BitVec 48) ++
      packet.arpDstProtoAddr ++ packet.arpDstHwAddr ++
      packet.arpSrcProtoAddr ++ packet.arpSrcHwAddr ++ packet.arpOpCode ++
      packet.arpProtoLen ++ packet.arpHwLen ++ packet.arpProtoType ++
      packet.arpHwType ++ packet.ethType ++ packet.srcMacAddr ++
      packet.dstMacAddr
  dest := 0
  keep := 0x0FFFFFFFFFFFFFFF
  last := true

/-- What the receiver reads of a packet. -/
def metaRsp (packet : ArpPacket) : ArpMetaRsp where
  srcMacAddr := packet.srcMacAddr
  ethType := packet.ethType
  arpHwType := packet.arpHwType
  arpProtoType := packet.arpProtoType
  arpHwLen := packet.arpHwLen
  arpProtoLen := packet.arpProtoLen
  arpSrcHwAddr := packet.arpSrcHwAddr
  arpSrcProtoAddr := packet.arpSrcProtoAddr

theorem arpMetaRsp_word (packet : ArpPacket) :
    arpMetaRsp packet.word = packet.metaRsp := by
  simp (disch := decide) only [arpMetaRsp, word, metaRsp,
    BitVec.extractLsb'_append_eq_of_le,
    BitVec.extractLsb'_append_eq_of_add_le, Nat.sub_self, Nat.reduceSub,
    BitVec.extractLsb'_eq_self]

theorem arpOpCode_word (packet : ArpPacket) :
    packet.word.data.extractLsb' 160 16 = packet.arpOpCode := by
  simp (disch := decide) only [word, BitVec.extractLsb'_append_eq_of_le,
    BitVec.extractLsb'_append_eq_of_add_le, Nat.sub_self, Nat.reduceSub,
    BitVec.extractLsb'_eq_self]

theorem arpDstProtoAddr_word (packet : ArpPacket) :
    packet.word.data.extractLsb' 304 32 = packet.arpDstProtoAddr := by
  simp (disch := decide) only [word, BitVec.extractLsb'_append_eq_of_le,
    BitVec.extractLsb'_append_eq_of_add_le, Nat.sub_self, Nat.reduceSub,
    BitVec.extractLsb'_eq_self]

/-- What comes of the word of a packet. -/
theorem arpPacket_word (myIpAddr : IpAddr) (packet : ArpPacket) :
    arpPacket myIpAddr packet.word =
      if packet.arpOpCode = arpRequest ∧
          packet.arpDstProtoAddr = myIpAddr then
        [.arpRsp packet.metaRsp]
      else if packet.arpOpCode = arpReply ∧
          packet.arpDstProtoAddr = myIpAddr then
        [.arpTableInsert
          ⟨packet.arpSrcHwAddr, packet.arpSrcProtoAddr, true⟩]
      else
        [] := by
  rw [arpPacket, arpMetaRsp_word, arpOpCode_word, arpDstProtoAddr_word]
  rfl

end ArpPacket

/-! ## `ArpPkgSender` -/

inductive ArpSendState where
  | arpIdleState
  | arpReplyState
  | arpSentreqState
deriving DecidableEq, Repr

structure ArpSenderState where
  apsFsmState : ArpSendState
  arpMetaRsp : ArpMetaRsp
  arpReqIp : IpAddr
  arpRsps : List ArpMetaRsp
  arpRequestIpAddrs : List IpAddr
deriving DecidableEq, Repr

/-- The request for the next hop of an address. -/
def ArpPorts.requestFor
    (ports : ArpPorts) (myMacAddr : MacAddr) (arpReqIp : IpAddr) :
    ArpPacket where
  dstMacAddr := broadcastMac
  srcMacAddr := myMacAddr
  ethType := 0x0608
  arpHwType := 0x0100
  arpProtoType := 0x0008
  arpHwLen := 6
  arpProtoLen := 4
  arpOpCode := arpRequest
  arpSrcHwAddr := myMacAddr
  arpSrcProtoAddr := ports.myIpAddr
  arpDstHwAddr := 0
  arpDstProtoAddr := ports.nextHopIp arpReqIp

/-- The reply to a request. -/
def ArpPorts.replyTo
    (ports : ArpPorts) (myMacAddr : MacAddr) (rsp : ArpMetaRsp) :
    ArpPacket where
  dstMacAddr := rsp.srcMacAddr
  srcMacAddr := myMacAddr
  ethType := rsp.ethType
  arpHwType := rsp.arpHwType
  arpProtoType := rsp.arpProtoType
  arpHwLen := rsp.arpHwLen
  arpProtoLen := rsp.arpProtoLen
  arpOpCode := arpReply
  arpSrcHwAddr := myMacAddr
  arpSrcProtoAddr := ports.myIpAddr
  arpDstHwAddr := rsp.arpSrcHwAddr
  arpDstProtoAddr := rsp.arpSrcProtoAddr

/-- `ArpPkgSender`, with the packets it writes as records. -/
def arpPkgSender
    (ports : ArpPorts) (myMacAddr : MacAddr) (state : ArpSenderState) :
    ArpSenderState × List ArpPacket :=
  match state.apsFsmState with
  | .arpIdleState =>
      match state.arpRsps, state.arpRequestIpAddrs with
      | rsp :: later, _ =>
          ({ state with
              arpMetaRsp := rsp
              arpRsps := later
              apsFsmState := .arpReplyState },
            [])
      | [], ip :: later =>
          ({ state with
              arpReqIp := ip
              arpRequestIpAddrs := later
              apsFsmState := .arpSentreqState },
            [])
      | [], [] => (state, [])
  | .arpSentreqState =>
      ({ state with apsFsmState := .arpIdleState },
        [ports.requestFor myMacAddr state.arpReqIp])
  | .arpReplyState =>
      ({ state with apsFsmState := .arpIdleState },
        [ports.replyTo myMacAddr state.arpMetaRsp])

namespace ArpSenderState

/-- The requests of others that are to be answered. -/
def toAnswer (state : ArpSenderState) : List ArpMetaRsp :=
  match state.apsFsmState with
  | .arpReplyState => state.arpMetaRsp :: state.arpRsps
  | .arpIdleState => state.arpRsps
  | .arpSentreqState => state.arpRsps

/-- The addresses that are to be asked for. -/
def toAsk (state : ArpSenderState) : List IpAddr :=
  match state.apsFsmState with
  | .arpSentreqState => state.arpReqIp :: state.arpRequestIpAddrs
  | .arpIdleState => state.arpRequestIpAddrs
  | .arpReplyState => state.arpRequestIpAddrs

/-- What one call of the sender does with what it has to do. -/
theorem arpPkgSender_keeps
    (ports : ArpPorts) (myMacAddr : MacAddr) (state : ArpSenderState) :
    (arpPkgSender ports myMacAddr state).2.filter
            (·.arpOpCode == arpReply) ++
          (arpPkgSender ports myMacAddr state).1.toAnswer.map
            (ports.replyTo myMacAddr) =
        state.toAnswer.map (ports.replyTo myMacAddr) ∧
      (arpPkgSender ports myMacAddr state).2.filter
            (·.arpOpCode == arpRequest) ++
          (arpPkgSender ports myMacAddr state).1.toAsk.map
            (ports.requestFor myMacAddr) =
        state.toAsk.map (ports.requestFor myMacAddr) := by
  cases fsmState : state.apsFsmState with
  | arpReplyState =>
      simp only [arpPkgSender, toAnswer, toAsk, fsmState]
      exact ⟨rfl, rfl⟩
  | arpSentreqState =>
      simp only [arpPkgSender, toAnswer, toAsk, fsmState]
      exact ⟨rfl, rfl⟩
  | arpIdleState =>
      cases rsps : state.arpRsps with
      | cons rsp later =>
          simp only [arpPkgSender, toAnswer, toAsk, fsmState, rsps]
          exact ⟨rfl, rfl⟩
      | nil =>
          cases requests : state.arpRequestIpAddrs with
          | cons ip later =>
              simp only [arpPkgSender, toAnswer, toAsk, fsmState, rsps,
                requests]
              exact ⟨rfl, rfl⟩
          | nil =>
              simp only [arpPkgSender, toAnswer, toAsk, fsmState, rsps,
                requests]
              exact ⟨rfl, rfl⟩

end ArpSenderState

end TcpOffload
