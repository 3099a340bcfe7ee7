import TcpOffload.Conn
import TcpOffload.Library.Process
import TcpOffload.Realign

/-!
# `RxEngParseTcpHeader`

The state machine of `rx_engine.cpp` that reads a segment behind its 12-byte
pseudo header, writes the header fields of the first beat and passes the
payload on.
-/

namespace TcpOffload

open Clocked Framing

/-- The members of its `header` that `RxEngTcpFsm` does not read stand beside
it. -/
structure TcpPseudoHeaderMeta where
  srcIp : IpAddr
  destIp : IpAddr
  srcPort : TcpPortNumber
  destPort : TcpPortNumber
  dataOffset : BitVec 4
  cwr : Bool
  ecn : Bool
  urg : Bool
  psh : Bool
  header : TcpHeaderMeta
  tcpOptions : BitVec 320
deriving DecidableEq, Repr

namespace NetAXISWord

/-! ## Fields of a first beat -/

/-- `tcp_payload_offset_words`. -/
def tcpDataOffset (word : NetAXISWord) : BitVec 4 :=
  word.data.extractLsb' 196 4

/-- `tcp_payload_length`: the length in the pseudo header, less the TCP
header. -/
def tcpPayloadLength (word : NetAXISWord) : BitVec 16 :=
  swapByte (word.data.extractLsb' 80 16) -
    word.tcpDataOffset.setWidth 16 * 4

/-- `tcp_payload_offset_bytes`. -/
def tcpPayloadOffsetBytes (word : NetAXISWord) : BitVec 6 :=
  word.tcpDataOffset.setWidth 6 * 4 + 12

/-- `tcp_seg_meta`. -/
def tcpSegMeta (word : NetAXISWord) : TcpPseudoHeaderMeta where
  srcIp := word.data.extractLsb' 0 32
  destIp := word.data.extractLsb' 32 32
  srcPort := word.data.extractLsb' 96 16
  destPort := word.data.extractLsb' 112 16
  dataOffset := word.tcpDataOffset
  cwr := word.data.getLsbD 207
  ecn := word.data.getLsbD 206
  urg := word.data.getLsbD 205
  psh := word.data.getLsbD 203
  header :=
    { seqNumber := swapByte (word.data.extractLsb' 128 32)
      ackNumber := swapByte (word.data.extractLsb' 160 32)
      winSize := swapByte (word.data.extractLsb' 208 16)
      ack := word.data.getLsbD 204
      rst := word.data.getLsbD 202
      syn := word.data.getLsbD 201
      fin := word.data.getLsbD 200
      winScale := 0
      payloadLength := word.tcpPayloadLength }
  tcpOptions := (word.data.extractLsb' 256 256).setWidth 320

end NetAXISWord

/-! ## The state machine -/

inductive ParseTcpHeaderState where
  | firstWord
  | remainingWords
  | extraWord
deriving DecidableEq, Repr

structure ParseState where
  parseFsmState : ParseTcpHeaderState
  prevWord : NetAXISWord
  tcpPayloadOffsetBytes : BitVec 6
  tcpPseudoPacket : List NetAXISWord
deriving DecidableEq, Repr

inductive ParseMsg where
  | metaData (segMeta : TcpPseudoHeaderMeta)
  | payload (word : NetAXISWord)
deriving DecidableEq, Repr

/-- Between two packets, with any values left in the registers. -/
def ParseState.idle
    (prevWord : NetAXISWord) (offset : BitVec 6)
    (packets : List NetAXISWord) : ParseState :=
  ⟨.firstWord, prevWord, offset, packets⟩

/-- The case `FIRST_WORD`. -/
def parseFirstWord
    (state : ParseState) (curWord : NetAXISWord)
    (later : List NetAXISWord) : ParseState × List ParseMsg :=
  ({ state with
      parseFsmState :=
        if !curWord.last && curWord.tcpPayloadLength != 0 then
          .remainingWords
        else
          .firstWord
      prevWord := curWord
      tcpPayloadOffsetBytes := curWord.tcpPayloadOffsetBytes
      tcpPseudoPacket := later },
    (if curWord.last && curWord.tcpPayloadLength != 0 then
      [.payload
        ((joinWords noDest NetAXISWord.empty curWord
          curWord.tcpPayloadOffsetBytes).withLast true)]
    else
      []) ++ [.metaData curWord.tcpSegMeta])

/-- The case `REMAINING_WORDS`. -/
def parseRemainingWords
    (state : ParseState) (curWord : NetAXISWord)
    (later : List NetAXISWord) : ParseState × List ParseMsg :=
  let extra :=
    curWord.keep.getLsbD state.tcpPayloadOffsetBytes.toNat
  ({ state with
      parseFsmState :=
        if curWord.last then
          if extra then .extraWord else .firstWord
        else
          .remainingWords
      prevWord := curWord
      tcpPseudoPacket := later },
    [.payload
      ((joinWords noDest curWord state.prevWord
        state.tcpPayloadOffsetBytes).withLast (curWord.last && !extra))])

/-- `RxEngParseTcpHeader`. -/
def rxEngParseTcpHeader (state : ParseState) :
    ParseState × List ParseMsg :=
  match state.parseFsmState, state.tcpPseudoPacket with
  | .firstWord, [] => (state, [])
  | .firstWord, curWord :: later => parseFirstWord state curWord later
  | .remainingWords, [] => (state, [])
  | .remainingWords, curWord :: later =>
      parseRemainingWords state curWord later
  | .extraWord, _ =>
      ({ state with parseFsmState := .firstWord },
        [.payload
          ((joinWords noDest NetAXISWord.empty state.prevWord
            state.tcpPayloadOffsetBytes).withLast true)])

/-! ## The two output streams -/

/-- What arrives on `tcp_meta_data`. -/
def segMetas (msgs : List ParseMsg) : List TcpPseudoHeaderMeta :=
  msgs.filterMap fun msg =>
    match msg with
    | .metaData segMeta => some segMeta
    | .payload _ => none

/-- What arrives on `tcp_payload`. -/
def payloadWords (msgs : List ParseMsg) : List NetAXISWord :=
  msgs.filterMap fun msg =>
    match msg with
    | .metaData _ => none
    | .payload word => some word

@[simp]
theorem segMetas_append (first second : List ParseMsg) :
    segMetas (first ++ second) = segMetas first ++ segMetas second :=
  List.filterMap_append

@[simp]
theorem payloadWords_append (first second : List ParseMsg) :
    payloadWords (first ++ second) =
      payloadWords first ++ payloadWords second :=
  List.filterMap_append

@[simp]
theorem segMetas_payload (words : List NetAXISWord) :
    segMetas (words.map ParseMsg.payload) = [] := by
  simp [segMetas]

@[simp]
theorem payloadWords_payload (words : List NetAXISWord) :
    payloadWords (words.map ParseMsg.payload) = words := by
  simp [payloadWords]

/-! ## Runs over one packet -/

section Packet

variable {prevWord : NetAXISWord} {offset : BitVec 6}
variable {words later : List NetAXISWord}

/-- With `prevWord` held, the rest of a packet is realigned. -/
theorem runs_remaining
    (frame : Delimited NetAXISWord.last words) :
    ∃ lastWord,
      Runs rxEngParseTcpHeader
        ⟨.remainingWords, prevWord, offset, words ++ later⟩
        ((realign noDest offset prevWord words).map ParseMsg.payload)
        (ParseState.idle lastWord offset later) := by
  induction frame generalizing prevWord with
  | @final curWord raised =>
      refine ⟨curWord, ?_⟩
      by_cases extra : curWord.keep.getLsbD offset.toNat = true
      · have called :
            rxEngParseTcpHeader
                ⟨.remainingWords, prevWord, offset, [curWord] ++ later⟩ =
              (⟨.extraWord, curWord, offset, later⟩,
                [.payload
                  ((joinWords noDest curWord prevWord offset).withLast
                    false)]) := by
          simp [rxEngParseTcpHeader, parseRemainingWords, raised, extra]
        have extraCalled :
            rxEngParseTcpHeader ⟨.extraWord, curWord, offset, later⟩ =
              (ParseState.idle curWord offset later,
                [.payload
                  ((joinWords noDest NetAXISWord.empty curWord offset).withLast
                    true)]) :=
          rfl
        rw [realign_of_extra extra]
        exact Runs.head called (Runs.head extraCalled (Runs.refl _))
      · have called :
            rxEngParseTcpHeader
                ⟨.remainingWords, prevWord, offset, [curWord] ++ later⟩ =
              (ParseState.idle curWord offset later,
                [.payload
                  ((joinWords noDest curWord prevWord offset).withLast
                    true)]) := by
          simp [rxEngParseTcpHeader, parseRemainingWords, raised, extra,
            ParseState.idle]
        rw [realign_of_ended raised (Bool.eq_false_iff.2 extra)]
        exact Runs.head called (Runs.refl _)
  | @more curWord words notRaised _ inductionHypothesis =>
      obtain ⟨lastWord, rest⟩ := @inductionHypothesis curWord
      have called :
          rxEngParseTcpHeader
              ⟨.remainingWords, prevWord, offset,
                (curWord :: words) ++ later⟩ =
            (⟨.remainingWords, curWord, offset, words ++ later⟩,
              [.payload
                ((joinWords noDest curWord prevWord offset).withLast
                  false)]) := by
        simp [rxEngParseTcpHeader, parseRemainingWords, notRaised]
      rw [realign_of_more notRaised]
      exact ⟨lastWord, Runs.head called rest⟩

/-- What is written for a packet.  Without payload the machine goes on to
read its next beat as a first one. -/
def parsedMsgs : List NetAXISWord → List ParseMsg
  | [] => []
  | first :: rest =>
      if first.tcpPayloadLength = 0 then
        .metaData first.tcpSegMeta :: parsedMsgs rest
      else if rest = [] then
        (realign noDest first.tcpPayloadOffsetBytes first []).map
          ParseMsg.payload ++ [.metaData first.tcpSegMeta]
      else
        .metaData first.tcpSegMeta ::
          (realign noDest first.tcpPayloadOffsetBytes first rest).map
            ParseMsg.payload

theorem runs_packet
    (frame : Delimited NetAXISWord.last words) :
    ∃ lastWord lastOffset,
      Runs rxEngParseTcpHeader
        (ParseState.idle prevWord offset (words ++ later))
        (parsedMsgs words)
        (ParseState.idle lastWord lastOffset later) := by
  induction frame generalizing prevWord offset with
  | @final first raised =>
      refine ⟨first, first.tcpPayloadOffsetBytes, ?_⟩
      by_cases none : first.tcpPayloadLength = 0
      · have called :
            rxEngParseTcpHeader
                (ParseState.idle prevWord offset ([first] ++ later)) =
              (ParseState.idle first first.tcpPayloadOffsetBytes later,
                [.metaData first.tcpSegMeta]) := by
          simp [rxEngParseTcpHeader, parseFirstWord, ParseState.idle,
            raised, none]
        rw [parsedMsgs, if_pos none]
        exact Runs.head called (Runs.refl _)
      · have called :
            rxEngParseTcpHeader
                (ParseState.idle prevWord offset ([first] ++ later)) =
              (ParseState.idle first first.tcpPayloadOffsetBytes later,
                (realign noDest first.tcpPayloadOffsetBytes first []).map
                  ParseMsg.payload ++ [.metaData first.tcpSegMeta]) := by
          have carries : (first.tcpPayloadLength != 0) = true :=
            bne_iff_ne.2 none
          change
            parseFirstWord
              (ParseState.idle prevWord offset (first :: later)) first
              later = _
          rw [parseFirstWord, raised, carries]
          rfl
        rw [parsedMsgs, if_neg none, if_pos rfl, ← List.append_nil
          (_ ++ [ParseMsg.metaData first.tcpSegMeta])]
        exact Runs.head called (Runs.refl _)
  | @more first rest notRaised restFrame inductionHypothesis =>
      by_cases none : first.tcpPayloadLength = 0
      · obtain ⟨lastWord, lastOffset, run⟩ :=
          @inductionHypothesis first first.tcpPayloadOffsetBytes
        have called :
            rxEngParseTcpHeader
                (ParseState.idle prevWord offset
                  ((first :: rest) ++ later)) =
              (ParseState.idle first first.tcpPayloadOffsetBytes
                  (rest ++ later),
                [.metaData first.tcpSegMeta]) := by
          simp [rxEngParseTcpHeader, parseFirstWord, ParseState.idle,
            notRaised, none]
        rw [parsedMsgs, if_pos none]
        exact ⟨lastWord, lastOffset, Runs.head called run⟩
      · obtain ⟨lastWord, run⟩ :=
          @runs_remaining first first.tcpPayloadOffsetBytes rest later
            restFrame
        have called :
            rxEngParseTcpHeader
                (ParseState.idle prevWord offset
                  ((first :: rest) ++ later)) =
              (⟨.remainingWords, first, first.tcpPayloadOffsetBytes,
                  rest ++ later⟩,
                [.metaData first.tcpSegMeta]) := by
          have carries : (first.tcpPayloadLength != 0) = true :=
            bne_iff_ne.2 none
          change
            parseFirstWord
              (ParseState.idle prevWord offset (first :: (rest ++ later)))
              first (rest ++ later) = _
          rw [parseFirstWord, notRaised, carries]
          rfl
        rw [parsedMsgs, if_neg none, if_neg restFrame.beats_ne_nil]
        exact
          ⟨lastWord, first.tcpPayloadOffsetBytes, Runs.head called run⟩

theorem segMetas_parsedMsgs (first : NetAXISWord) :
    segMetas (parsedMsgs (first :: words)) =
      first.tcpSegMeta ::
        if first.tcpPayloadLength = 0 then
          segMetas (parsedMsgs words)
        else
          [] := by
  rw [parsedMsgs]
  split
  · rfl
  · split
    · rw [segMetas_append, segMetas_payload]
      rfl
    · have noMetas :=
        segMetas_payload
          (realign noDest first.tcpPayloadOffsetBytes first words)
      exact congrArg (first.tcpSegMeta :: ·) noMetas

/-- Behind its first beat a packet is taken for further packets exactly when
it has no payload. -/
theorem segMetas_parsedMsgs_eq_single_iff (first : NetAXISWord) :
    segMetas (parsedMsgs (first :: words)) = [first.tcpSegMeta] ↔
      (first.tcpPayloadLength = 0 → words = []) := by
  rw [segMetas_parsedMsgs, List.cons.injEq]
  split
  · rename_i none
    constructor
    · intro same _
      cases words with
      | nil =>
          rfl
      | cons second words =>
          rw [segMetas_parsedMsgs] at same
          cases same.2
    · intro single
      rw [single none]
      exact ⟨rfl, rfl⟩
  · rename_i some
    exact ⟨fun _ none => absurd none some, fun _ => ⟨rfl, rfl⟩⟩

theorem payloadWords_parsedMsgs
    {first : NetAXISWord}
    (single : first.tcpPayloadLength = 0 → words = []) :
    payloadWords (parsedMsgs (first :: words)) =
      if first.tcpPayloadLength = 0 then
        []
      else
        realign noDest first.tcpPayloadOffsetBytes first words := by
  rw [parsedMsgs]
  split
  · rename_i none
    rw [single none]
    rfl
  · split
    · rename_i noRest
      rw [payloadWords_append, payloadWords_payload, noRest]
      exact List.append_nil _
    · exact
        payloadWords_payload
          (realign noDest first.tcpPayloadOffsetBytes first words)

end Packet

end TcpOffload
