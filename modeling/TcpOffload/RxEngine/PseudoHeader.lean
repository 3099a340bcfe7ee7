import TcpOffload.Conn
import TcpOffload.Library.Process
import TcpOffload.Realign

/-!
# `RxEngTcpPseudoHeaderInsert`

The state machine of `rx_engine.cpp` that replaces the IPv4 header of a
packet by the 12-byte pseudo header of TCP.
-/

namespace TcpOffload

open Clocked Framing

/-- The first byte of a beat that `RemoveIpHeader` keeps, `keep_extra`: the
IP header less the 12 bytes that the pseudo header will take. -/
def keepExtra (ipHeaderLength : BitVec 4) : BitVec 6 :=
  8 + (ipHeaderLength.setWidth 6 - 5) * 4

/-- `RemoveIpHeader`.  The case 9 takes the valid bits of `prevWord` from
lane 36 on, not from lane 24. -/
def removeIpHeader
    (curWord prevWord : NetAXISWord) (ipHeaderLength : BitVec 4)
    (sendWord : NetAXISWord) : NetAXISWord :=
  if ipHeaderLength < 5 then
    { sendWord with dest := prevWord.dest }
  else if ipHeaderLength = 9 then
    { concatTwoWords curWord prevWord (keepExtra ipHeaderLength)
        { sendWord with dest := prevWord.dest } with
      keep := (prevWord.keep >>> 36) ||| (curWord.keep <<< 40) }
  else
    concatTwoWords curWord prevWord (keepExtra ipHeaderLength)
      { sendWord with dest := prevWord.dest }

/-- The 12 bytes written over the start of a word: the two addresses, the
protocol and the length of the segment. -/
def insertPseudoHeader
    (srcIpAddr destIpAddr : IpAddr) (tcpSegmentLength : BitVec 16)
    (sendWord : NetAXISWord) : NetAXISWord :=
  { sendWord with
    data :=
      sendWord.data.extractLsb' 96 416 ++
        (swapByte tcpSegmentLength ++ (0x0600 : BitVec 16) ++
          destIpAddr ++ srcIpAddr)
    keep := sendWord.keep ||| 0xFFF }

inductive PseudoHeaderFsmState where
  | ipHeader
  | tcpPayload
  | extraWord
deriving DecidableEq, Repr

structure InsertState where
  fsmState : PseudoHeaderFsmState
  prevWord : NetAXISWord
  ipHeaderLength : BitVec 4
  ipPacketLength : BitVec 16
  destIpAddr : IpAddr
  srcIpAddr : IpAddr
  pseudoHeaderNotInserted : Bool
  rxIpPktIn : List NetAXISWord
deriving DecidableEq, Repr

namespace InsertState

/-- The registers as the design starts. -/
def start : InsertState :=
  ⟨.ipHeader, NetAXISWord.empty, 0, 0, 0, 0, false, []⟩

/-- `tcp_segment_length`. -/
def tcpSegmentLength (state : InsertState) : BitVec 16 :=
  state.ipPacketLength - state.ipHeaderLength.setWidth 16 * 4

/-- The pseudo header of the packet in the registers. -/
def insertHeader (state : InsertState) (sendWord : NetAXISWord) :
    NetAXISWord :=
  insertPseudoHeader state.srcIpAddr state.destIpAddr
    state.tcpSegmentLength sendWord

/-- The registers that the case `IP_HEADER` reads from a first beat. -/
def readIpHeader (state : InsertState) (curWord : NetAXISWord) :
    InsertState :=
  { state with
    prevWord := curWord
    ipHeaderLength := curWord.data.extractLsb' 0 4
    ipPacketLength := swapByte (curWord.data.extractLsb' 16 16)
    srcIpAddr := curWord.data.extractLsb' 96 32
    destIpAddr := curWord.data.extractLsb' 128 32 }

end InsertState

/-- `RxEngTcpPseudoHeaderInsert`.  Every word goes to both outputs; one list
stands for the two. -/
def rxEngTcpPseudoHeaderInsert (state : InsertState) :
    InsertState × List NetAXISWord :=
  match state.fsmState, state.rxIpPktIn with
  | .ipHeader, [] => (state, [])
  | .ipHeader, curWord :: later =>
      let read := { state.readIpHeader curWord with rxIpPktIn := later }
      if curWord.last then
        (read,
          [(read.insertHeader
            (removeIpHeader NetAXISWord.empty curWord read.ipHeaderLength
              NetAXISWord.empty)).withLast true])
      else
        ({ read with
            pseudoHeaderNotInserted := true
            fsmState := .tcpPayload }, [])
  | .tcpPayload, [] => (state, [])
  | .tcpPayload, curWord :: later =>
      let sendWord :=
        removeIpHeader curWord state.prevWord state.ipHeaderLength
          NetAXISWord.empty
      let extra :=
        curWord.keep.getLsbD (keepExtra state.ipHeaderLength).toNat
      ({ state with
          fsmState :=
            if curWord.last then
              if extra then .extraWord else .ipHeader
            else
              .tcpPayload
          prevWord := curWord
          pseudoHeaderNotInserted := false
          rxIpPktIn := later },
        [(if state.pseudoHeaderNotInserted then
            state.insertHeader sendWord
          else
            sendWord).withLast (curWord.last && !extra)])
  | .extraWord, _ =>
      ({ state with fsmState := .ipHeader },
        [(removeIpHeader NetAXISWord.empty state.prevWord
          state.ipHeaderLength NetAXISWord.empty).withLast true])

/-! ## Words without the IP header -/

theorem keepExtra_ne_zero
    {ipHeaderLength : BitVec 4} (atLeast : 5 ≤ ipHeaderLength) :
    keepExtra ipHeaderLength ≠ 0 := by
  revert ipHeaderLength
  decide

theorem keepExtra_toNat
    {ipHeaderLength : BitVec 4} (atLeast : 5 ≤ ipHeaderLength) :
    (keepExtra ipHeaderLength).toNat + 12 = 4 * ipHeaderLength.toNat := by
  revert ipHeaderLength
  decide

/-- Outside the case 9 the header is dropped as `joinWords` drops bytes. -/
theorem removeIpHeader_eq
    {ipHeaderLength : BitVec 4} (atLeast : 5 ≤ ipHeaderLength)
    (notNine : ipHeaderLength ≠ 9) (curWord prevWord : NetAXISWord) :
    removeIpHeader curWord prevWord ipHeaderLength NetAXISWord.empty =
      joinWords NetAXISWord.dest curWord prevWord
        (keepExtra ipHeaderLength) := by
  rw [removeIpHeader, if_neg (BitVec.not_lt.2 atLeast), if_neg notNine,
    joinWords_eq_concat (keepExtra_ne_zero atLeast)]
  rfl

/-- The words written once `prevWord` is held and `words` are still to
come. -/
def removeWords (ipHeaderLength : BitVec 4) :
    NetAXISWord → List NetAXISWord → List NetAXISWord
  | prevWord, [] =>
      [(removeIpHeader NetAXISWord.empty prevWord ipHeaderLength
        NetAXISWord.empty).withLast true]
  | prevWord, curWord :: words =>
      if curWord.last &&
          !curWord.keep.getLsbD (keepExtra ipHeaderLength).toNat then
        [(removeIpHeader curWord prevWord ipHeaderLength
          NetAXISWord.empty).withLast true]
      else
        (removeIpHeader curWord prevWord ipHeaderLength
            NetAXISWord.empty).withLast false ::
          removeWords ipHeaderLength curWord words

theorem removeWords_delimited
    (ipHeaderLength : BitVec 4) (prevWord : NetAXISWord)
    (words : List NetAXISWord) :
    Delimited NetAXISWord.last
      (removeWords ipHeaderLength prevWord words) := by
  induction words generalizing prevWord with
  | nil =>
      exact Delimited.final rfl
  | cons curWord words inductionHypothesis =>
      rw [removeWords]
      split
      · exact Delimited.final rfl
      · exact Delimited.more rfl (inductionHypothesis curWord)

/-- The first word written has the tail of the word held. -/
theorem removeWords_head
    (ipHeaderLength : BitVec 4) (prevWord : NetAXISWord)
    (words : List NetAXISWord) :
    ∃ curWord last later,
      removeWords ipHeaderLength prevWord words =
        (removeIpHeader curWord prevWord ipHeaderLength
          NetAXISWord.empty).withLast last :: later := by
  cases words with
  | nil =>
      exact ⟨_, _, _, rfl⟩
  | cons curWord words =>
      rw [removeWords]
      split
      · exact ⟨_, _, _, rfl⟩
      · exact ⟨_, _, _, rfl⟩

theorem removeWords_eq
    {ipHeaderLength : BitVec 4} (atLeast : 5 ≤ ipHeaderLength)
    (notNine : ipHeaderLength ≠ 9) (prevWord : NetAXISWord)
    (words : List NetAXISWord) :
    removeWords ipHeaderLength prevWord words =
      realign NetAXISWord.dest (keepExtra ipHeaderLength) prevWord
        words := by
  induction words generalizing prevWord with
  | nil =>
      rw [removeWords, realign, removeIpHeader_eq atLeast notNine]
  | cons curWord words inductionHypothesis =>
      rw [removeWords, realign, removeIpHeader_eq atLeast notNine,
        inductionHypothesis]

/-! ## Runs over one packet -/

namespace InsertState

/-- Between two packets, with any values left in the registers. -/
def idle (state : InsertState) (packets : List NetAXISWord) :
    InsertState :=
  { state with fsmState := .ipHeader, rxIpPktIn := packets }

/-- Behind the first beat of a packet. -/
def behindHeader
    (state : InsertState) (notInserted : Bool) (packets : List NetAXISWord) :
    InsertState :=
  { state with
    fsmState := .tcpPayload
    pseudoHeaderNotInserted := notInserted
    rxIpPktIn := packets }

end InsertState

section Packet

variable {state : InsertState} {words later : List NetAXISWord}

/-- What is done to the next word written. -/
def InsertState.firstWord (state : InsertState) (notInserted : Bool) :
    NetAXISWord → NetAXISWord :=
  if notInserted then state.insertHeader else id

theorem firstWord_withLast
    (notInserted : Bool) (sendWord : NetAXISWord) (last : Bool) :
    state.firstWord notInserted (sendWord.withLast last) =
      (if notInserted then state.insertHeader sendWord
        else sendWord).withLast last := by
  cases notInserted <;> rfl

/-- The registers once `curWord` has been read behind the first beat. -/
def InsertState.hold (state : InsertState) (curWord : NetAXISWord) :
    InsertState :=
  { state with prevWord := curWord, pseudoHeaderNotInserted := false }

theorem insert_behindHeader
    (notInserted : Bool) (curWord : NetAXISWord) :
    rxEngTcpPseudoHeaderInsert
        (state.behindHeader notInserted (curWord :: later)) =
      let extra :=
        curWord.keep.getLsbD (keepExtra state.ipHeaderLength).toNat
      ({ (state.hold curWord).behindHeader false later with
          fsmState :=
            if curWord.last then
              if extra then .extraWord else .ipHeader
            else
              .tcpPayload },
        [state.firstWord notInserted
          ((removeIpHeader curWord state.prevWord state.ipHeaderLength
            NetAXISWord.empty).withLast (curWord.last && !extra))]) := by
  simp only [firstWord_withLast]
  rfl

theorem insert_extraWord :
    rxEngTcpPseudoHeaderInsert
        { state.behindHeader false later with fsmState := .extraWord } =
      ((state.behindHeader false later).idle later,
        removeWords state.ipHeaderLength state.prevWord []) :=
  rfl

/-- Behind its first beat a packet loses the IP header; the first word
written takes the pseudo header. -/
theorem runs_behindHeader
    (frame : Delimited NetAXISWord.last words) (notInserted : Bool) :
    ∃ final : InsertState,
      Runs rxEngTcpPseudoHeaderInsert
        (state.behindHeader notInserted (words ++ later))
        ((removeWords state.ipHeaderLength state.prevWord
          words).modifyHead (state.firstWord notInserted))
        (final.idle later) := by
  induction frame generalizing state notInserted with
  | @final curWord raised =>
      refine ⟨(state.hold curWord).behindHeader false later, ?_⟩
      have called :=
        @insert_behindHeader state later notInserted curWord
      rw [removeWords, raised, Bool.true_and]
      by_cases extra :
          curWord.keep.getLsbD (keepExtra state.ipHeaderLength).toNat =
            true
      · rw [raised, extra] at called
        rw [extra]
        exact
          Runs.head called
            (Runs.head (@insert_extraWord (state.hold curWord) later)
              (Runs.refl _))
      · have ended := Bool.eq_false_iff.2 extra
        rw [raised, ended] at called
        rw [ended]
        exact Runs.head called (Runs.refl _)
  | @more curWord words notRaised _ inductionHypothesis =>
      have called :=
        @insert_behindHeader state (words ++ later) notInserted curWord
      obtain ⟨final, rest⟩ :=
        @inductionHypothesis (state.hold curWord) false
      have unchanged :
          (removeWords state.ipHeaderLength curWord words).modifyHead id =
            removeWords state.ipHeaderLength curWord words := by
        rw [List.modifyHead_id]
        rfl
      rw [notRaised] at called
      rw [removeWords, notRaised, Bool.false_and]
      refine ⟨final, Runs.head called ?_⟩
      rw [← unchanged]
      exact rest

/-- The words that are written for a packet. -/
def insertWords (state : InsertState) (first : NetAXISWord)
    (rest : List NetAXISWord) : List NetAXISWord :=
  let read := state.readIpHeader first
  (removeWords read.ipHeaderLength first rest).modifyHead
    read.insertHeader

/-- One packet is read and written behind its pseudo header. -/
theorem runs_insertWords
    {first : NetAXISWord}
    (frame : Delimited NetAXISWord.last (first :: words)) :
    ∃ final : InsertState,
      Runs rxEngTcpPseudoHeaderInsert
        (state.idle ((first :: words) ++ later))
        (insertWords state first words)
        (final.idle later) := by
  cases frame with
  | final raised =>
      have called :
          rxEngTcpPseudoHeaderInsert (state.idle ([first] ++ later)) =
            ((state.readIpHeader first).idle later,
              insertWords state first []) := by
        rw [insertWords, removeWords]
        simp only [rxEngTcpPseudoHeaderInsert, InsertState.idle,
          List.cons_append, List.nil_append, raised, if_true]
        rfl
      refine ⟨state.readIpHeader first, ?_⟩
      exact List.append_nil (insertWords state first []) ▸
        Runs.head called (Runs.refl _)
  | more notRaised restFrame =>
      have called :
          rxEngTcpPseudoHeaderInsert
              (state.idle ((first :: words) ++ later)) =
            ((state.readIpHeader first).behindHeader true
              (words ++ later), []) := by
        simp only [rxEngTcpPseudoHeaderInsert, InsertState.idle,
          List.cons_append, notRaised, Bool.false_eq_true, if_false]
        rfl
      obtain ⟨final, rest⟩ :=
        @runs_behindHeader (state.readIpHeader first) words later
          restFrame true
      exact ⟨final, Runs.silent called rest⟩

/-- The words of a packet behind its pseudo header. -/
def pseudoWords (state : InsertState) (first : NetAXISWord)
    (rest : List NetAXISWord) : List NetAXISWord :=
  let read := state.readIpHeader first
  (realign NetAXISWord.dest (keepExtra read.ipHeaderLength) first
    rest).modifyHead read.insertHeader

theorem pseudoWords_delimited
    (state : InsertState) (first : NetAXISWord)
    (rest : List NetAXISWord) :
    Delimited NetAXISWord.last (pseudoWords state first rest) := by
  have frame :=
    @realign_delimited NetAXISWord.dest
      (keepExtra (state.readIpHeader first).ipHeaderLength) first rest
  rw [pseudoWords]
  generalize realign NetAXISWord.dest _ first rest = words at frame
  cases frame with
  | final raised =>
      exact Delimited.final raised
  | more notRaised rest =>
      exact Delimited.more notRaised rest

theorem insertWords_eq
    {first : NetAXISWord}
    (atLeast : 5 ≤ (state.readIpHeader first).ipHeaderLength)
    (notNine : (state.readIpHeader first).ipHeaderLength ≠ 9) :
    insertWords state first words = pseudoWords state first words := by
  rw [insertWords, pseudoWords]
  simp only [removeWords_eq atLeast notNine]

/-- A packet with a header of 5 to 15 words, 9 apart, is written behind its
pseudo header. -/
theorem runs_insert
    {first : NetAXISWord}
    (atLeast : 5 ≤ (state.readIpHeader first).ipHeaderLength)
    (notNine : (state.readIpHeader first).ipHeaderLength ≠ 9)
    (frame : Delimited NetAXISWord.last (first :: words)) :
    ∃ final : InsertState,
      Runs rxEngTcpPseudoHeaderInsert
        (state.idle ((first :: words) ++ later))
        (pseudoWords state first words)
        (final.idle later) := by
  rw [← insertWords_eq atLeast notNine]
  exact runs_insertWords frame

end Packet

end TcpOffload
