import Mathlib.Algebra.Order.Ring.Nat
import Mathlib.Data.List.Basic
import Mathlib.Data.List.Forall2

/-!
# Framing byte strings into beats

A stream carries byte strings as frames of beats.  A beat holds at most
`width` bytes; all beats of a frame but the final one are full, and only the
final one raises `last`.  How a beat stores its bytes is a parameter.
-/

namespace Framing

universe u v

variable {Byte : Type u} {Beat : Type v}
variable (holds : Beat → List Byte → Prop) (last : Beat → Bool)
variable (width : Nat)

/-- `beats` is one frame carrying exactly `bytes`. -/
inductive IsFrame : List Byte → List Beat → Prop
  | final {bytes : List Byte} {beat : Beat} :
      holds beat bytes →
      bytes ≠ [] →
      bytes.length ≤ width →
      last beat = true →
      IsFrame bytes [beat]
  | more {chunk bytes : List Byte} {beat : Beat} {beats : List Beat} :
      holds beat chunk →
      chunk.length = width →
      last beat = false →
      IsFrame bytes beats →
      IsFrame (chunk ++ bytes) (beat :: beats)

/-- `beats` is the concatenation of one frame for each of the byte strings. -/
inductive Frames : List (List Byte) → List Beat → Prop
  | nil : Frames [] []
  | cons {bytes : List Byte} {beats : List Beat}
      {restBytes : List (List Byte)} {restBeats : List Beat} :
      IsFrame holds last width bytes beats →
      Frames restBytes restBeats →
      Frames (bytes :: restBytes) (beats ++ restBeats)

/-- The bytes in the final beat of a frame of `bytes`. -/
def lastChunk {Byte : Type u} (width : Nat) (bytes : List Byte) :
    List Byte :=
  bytes.drop (width * ((bytes.length - 1) / width))

theorem lastChunk_of_short
    {width : Nat} {bytes : List Byte}
    (nonempty : bytes ≠ []) (short : bytes.length ≤ width) :
    lastChunk width bytes = bytes := by
  have positive := List.length_pos_of_ne_nil nonempty
  have noneBefore : (bytes.length - 1) / width = 0 :=
    Nat.div_eq_of_lt (by omega)
  rw [lastChunk, noneBefore, Nat.mul_zero, List.drop_zero]

theorem lastChunk_append
    {width : Nat} {chunk bytes : List Byte}
    (full : chunk.length = width) (positive : 0 < width)
    (nonempty : bytes ≠ []) :
    lastChunk width (chunk ++ bytes) = lastChunk width bytes := by
  have bytesPositive := List.length_pos_of_ne_nil nonempty
  have oneMore :
      ((chunk ++ bytes).length - 1) / width =
        (bytes.length - 1) / width + 1 := by
    rw [List.length_append, full,
      show width + bytes.length - 1 = bytes.length - 1 + width by omega,
      Nat.add_div_right _ positive]
  rw [lastChunk, oneMore, Nat.mul_add_one, Nat.add_comm _ width,
    ← List.drop_drop, ← full, List.drop_left, full, lastChunk]

theorem length_lastChunk
    {width : Nat} {bytes : List Byte} (nonempty : bytes ≠ []) :
    (lastChunk width bytes).length = (bytes.length - 1) % width + 1 := by
  have positive := List.length_pos_of_ne_nil nonempty
  have divided := Nat.div_add_mod (bytes.length - 1) width
  rw [lastChunk, List.length_drop]
  omega

/-- A frame of several beats is more than its final beat. -/
theorem lastChunk_eq_self_iff
    {width : Nat} {bytes : List Byte}
    (nonempty : bytes ≠ []) (positive : 0 < width) :
    lastChunk width bytes = bytes ↔ bytes.length ≤ width := by
  constructor
  · intro same
    have chunkLength :
        (lastChunk width bytes).length = (bytes.length - 1) % width + 1 :=
      length_lastChunk nonempty
    have bytesPositive := List.length_pos_of_ne_nil nonempty
    have remainder := Nat.mod_lt (bytes.length - 1) positive
    rw [same] at chunkLength
    omega
  · exact lastChunk_of_short nonempty

/-- Only the final beat raises `last`, whatever the beats carry. -/
inductive Delimited : List Beat → Prop
  | final {beat : Beat} :
      last beat = true →
      Delimited [beat]
  | more {beat : Beat} {beats : List Beat} :
      last beat = false →
      Delimited beats →
      Delimited (beat :: beats)

variable {holds last width}

theorem Delimited.beats_ne_nil
    {beats : List Beat} (frame : Delimited last beats) : beats ≠ [] := by
  cases frame <;> simp

/-- A beat of the frame raises `last`. -/
theorem Delimited.exists_last
    {beats : List Beat} (frame : Delimited last beats) :
    ∃ beat ∈ beats, last beat = true := by
  induction frame with
  | final raised =>
      exact ⟨_, List.mem_cons_self, raised⟩
  | more _ _ inductionHypothesis =>
      obtain ⟨beat, member, raised⟩ := inductionHypothesis
      exact ⟨beat, List.mem_cons_of_mem _ member, raised⟩

/-- The start of a stream with a frame at its head is a part of the frame
without its final beat, or the frame with a start of what follows. -/
theorem Delimited.prefix_cases
    {frame beats rest : List Beat} (delimited : Delimited last frame)
    (start : beats <+: frame ++ rest) :
    (∀ beat ∈ beats, last beat = false) ∨
      ∃ later, beats = frame ++ later ∧ later <+: rest := by
  induction delimited generalizing beats with
  | @final beat raised =>
      cases beats with
      | nil =>
          exact Or.inl fun beat member => (by cases member)
      | cons first later =>
          obtain ⟨rfl, inRest⟩ := List.cons_prefix_cons.1 start
          exact Or.inr ⟨later, rfl, inRest⟩
  | @more beat frame notRaised _ inductionHypothesis =>
      cases beats with
      | nil =>
          exact Or.inl fun beat member => (by cases member)
      | cons first later =>
          obtain ⟨rfl, laterStart⟩ := List.cons_prefix_cons.1 start
          rcases inductionHypothesis laterStart with
            part | ⟨behind, rfl, inRest⟩
          · refine Or.inl fun other member => ?_
            rcases List.mem_cons.1 member with rfl | inLater
            · exact notRaised
            · exact part other inLater
          · exact Or.inr ⟨behind, rfl, inRest⟩

namespace IsFrame

theorem delimited
    {bytes : List Byte} {beats : List Beat}
    (frame : IsFrame holds last width bytes beats) :
    Delimited last beats := by
  induction frame with
  | final _ _ _ raised =>
      exact Delimited.final raised
  | more _ _ notRaised _ inductionHypothesis =>
      exact Delimited.more notRaised inductionHypothesis

theorem bytes_ne_nil
    {bytes : List Byte} {beats : List Beat}
    (frame : IsFrame holds last width bytes beats) :
    bytes ≠ [] := by
  induction frame with
  | final _ nonempty _ _ =>
      exact nonempty
  | more _ _ _ _ inductionHypothesis =>
      simp [inductionHypothesis]

theorem beats_ne_nil
    {bytes : List Byte} {beats : List Beat}
    (frame : IsFrame holds last width bytes beats) :
    beats ≠ [] := by
  cases frame <;> simp

/-- The number of beats of a frame is its byte count over the width, rounded
up. -/
theorem beats_bound
    {bytes : List Byte} {beats : List Beat}
    (frame : IsFrame holds last width bytes beats) :
    width * (beats.length - 1) < bytes.length ∧
      bytes.length ≤ width * beats.length := by
  induction frame with
  | @final bytes beat _ nonempty short _ =>
      have positive := List.length_pos_of_ne_nil nonempty
      simpa using ⟨positive, short⟩
  | @more chunk bytes beat beats _ full _ rest inductionHypothesis =>
      have positive :=
        List.length_pos_of_ne_nil rest.beats_ne_nil
      obtain ⟨count, countEq⟩ :=
        Nat.exists_eq_add_of_lt positive
      simp only [countEq, List.length_cons, List.length_append, full,
        Nat.zero_add, Nat.add_sub_cancel,
        Nat.mul_add_one] at inductionHypothesis ⊢
      omega

/-- The first beat can be replaced by one that holds as many bytes. -/
theorem replace_head
    {bytes : List Byte} {beat : Beat} {beats : List Beat}
    (frame : IsFrame holds last width bytes (beat :: beats)) :
    ∃ chunk later,
      bytes = chunk ++ later ∧
      holds beat chunk ∧
      (later = [] ∨ chunk.length = width) ∧
      ∀ (other : Beat) (otherChunk : List Byte),
        holds other otherChunk →
        otherChunk.length = chunk.length →
        last other = last beat →
        IsFrame holds last width (otherChunk ++ later)
          (other :: beats) := by
  cases frame with
  | final holdsBytes nonempty short raised =>
      refine
        ⟨bytes, [], (List.append_nil _).symm, holdsBytes, Or.inl rfl, ?_⟩
      intro other otherChunk holdsOther sameLength sameLast
      rw [List.append_nil]
      refine IsFrame.final holdsOther ?_ (by omega) (sameLast.trans raised)
      intro none
      have positive := List.length_pos_of_ne_nil nonempty
      rw [none, List.length_nil] at sameLength
      omega
  | more holdsChunk full notRaised rest =>
      refine ⟨_, _, rfl, holdsChunk, Or.inr full, ?_⟩
      intro other otherChunk holdsOther sameLength sameLast
      exact
        IsFrame.more holdsOther (sameLength.trans full)
          (sameLast.trans notRaised) rest

/-- What the first beat holds is the start of the byte string. -/
theorem holds_head
    {bytes : List Byte} {beat : Beat} {beats : List Beat}
    (frame : IsFrame holds last width bytes (beat :: beats)) :
    holds beat (bytes.take width) := by
  cases frame with
  | final holdsBytes _ short _ =>
      rw [List.take_of_length_le short]
      exact holdsBytes
  | more holdsChunk full _ _ =>
      rw [← full, List.take_left]
      exact holdsChunk

/-- Two frames at the head of the same stream are the same frame. -/
theorem prefix_unique
    (holdsUnique :
      ∀ beat first second,
        holds beat first → holds beat second → first = second)
    {bytes other : List Byte} {beats otherBeats rest otherRest : List Beat}
    (left : IsFrame holds last width bytes beats)
    (right : IsFrame holds last width other otherBeats)
    (same : beats ++ rest = otherBeats ++ otherRest) :
    bytes = other ∧ rest = otherRest := by
  induction left generalizing other otherBeats with
  | final holdsLeft _ _ lastLeft =>
      cases right with
      | final holdsRight _ _ _ =>
          simp only [List.cons_append, List.nil_append,
            List.cons.injEq] at same
          obtain ⟨rfl, rfl⟩ := same
          exact ⟨holdsUnique _ _ _ holdsLeft holdsRight, rfl⟩
      | more _ _ notLast _ =>
          simp only [List.cons_append, List.cons.injEq] at same
          rw [same.1, notLast] at lastLeft
          cases lastLeft
  | more holdsLeft _ notLast _ inductionHypothesis =>
      cases right with
      | final _ _ _ lastRight =>
          simp only [List.cons_append, List.cons.injEq] at same
          rw [same.1, lastRight] at notLast
          cases notLast
      | more holdsRight _ _ restRight =>
          simp only [List.cons_append, List.cons.injEq] at same
          obtain ⟨rfl, tails⟩ := same
          obtain ⟨bytesEq, restEq⟩ :=
            inductionHypothesis restRight tails
          rw [bytesEq, holdsUnique _ _ _ holdsLeft holdsRight]
          exact ⟨rfl, restEq⟩

/-- Every nonempty byte string has a frame when every chunk has a beat. -/
theorem exists_of_beats
    (positive : 0 < width)
    (beatOf :
      ∀ (chunk : List Byte) (raised : Bool),
        chunk.length ≤ width →
          ∃ beat, holds beat chunk ∧ last beat = raised)
    (bytes : List Byte) (nonempty : bytes ≠ []) :
    ∃ beats, IsFrame holds last width bytes beats := by
  by_cases short : bytes.length ≤ width
  · obtain ⟨beat, holdsBytes, raised⟩ := beatOf bytes true short
    exact ⟨[beat], IsFrame.final holdsBytes nonempty short raised⟩
  · have chunkLength : (bytes.take width).length = width := by
      rw [List.length_take]
      omega
    have restNonempty : bytes.drop width ≠ [] := by
      intro empty
      have noRest := congrArg List.length empty
      rw [List.length_drop, List.length_nil] at noRest
      omega
    obtain ⟨beat, holdsChunk, notRaised⟩ :=
      beatOf (bytes.take width) false (Nat.le_of_eq chunkLength)
    obtain ⟨beats, frame⟩ :=
      exists_of_beats positive beatOf (bytes.drop width) restNonempty
    have joined := IsFrame.more holdsChunk chunkLength notRaised frame
    rw [List.take_append_drop] at joined
    exact ⟨beat :: beats, joined⟩
termination_by bytes.length
decreasing_by
  rw [List.length_drop]
  omega

/-- A string that fits in a beat takes one beat. -/
theorem single_of_short
    {bytes : List Byte} {beats : List Beat}
    (frame : IsFrame holds last width bytes beats)
    (short : bytes.length ≤ width) :
    ∃ beat, beats = [beat] ∧ holds beat bytes ∧ last beat = true := by
  cases frame with
  | final holdsBytes _ _ raised =>
      exact ⟨_, rfl, holdsBytes, raised⟩
  | more _ full _ rest =>
      have positive := List.length_pos_of_ne_nil rest.bytes_ne_nil
      rw [List.length_append] at short
      omega

end IsFrame

namespace Frames

theorem beats_of_short
    {strings : List (List Byte)} {beats : List Beat}
    (frames : Frames holds last width strings beats)
    (short : ∀ bytes ∈ strings, bytes.length ≤ width) :
    List.Forall₂
      (fun bytes beat => holds beat bytes ∧ last beat = true) strings
      beats := by
  induction frames with
  | nil =>
      exact List.Forall₂.nil
  | cons frame _ inductionHypothesis =>
      obtain ⟨own, others⟩ := List.forall_mem_cons.1 short
      obtain ⟨beat, rfl, holdsBytes, raised⟩ := frame.single_of_short own
      exact
        List.Forall₂.cons ⟨holdsBytes, raised⟩
          (inductionHypothesis others)

theorem single
    {bytes : List Byte} {beats : List Beat}
    (frame : IsFrame holds last width bytes beats) :
    Frames holds last width [bytes] beats := by
  simpa using Frames.cons frame Frames.nil

theorem eq_nil
    {beats : List Beat} (frames : Frames holds last width [] beats) :
    beats = [] := by
  cases frames
  rfl

theorem exists_of_frames
    {strings : List (List Byte)}
    (framed :
      ∀ bytes ∈ strings, ∃ beats, IsFrame holds last width bytes beats) :
    ∃ beats, Frames holds last width strings beats := by
  induction strings with
  | nil =>
      exact ⟨[], Frames.nil⟩
  | cons bytes rest inductionHypothesis =>
      obtain ⟨first, frame⟩ := framed bytes List.mem_cons_self
      obtain ⟨later, frames⟩ :=
        inductionHypothesis fun other member =>
          framed other (List.mem_cons_of_mem bytes member)
      exact ⟨first ++ later, Frames.cons frame frames⟩

theorem append
    {strings others : List (List Byte)} {beats otherBeats : List Beat}
    (left : Frames holds last width strings beats)
    (right : Frames holds last width others otherBeats) :
    Frames holds last width (strings ++ others) (beats ++ otherBeats) := by
  induction left with
  | nil =>
      exact right
  | cons frame _ inductionHypothesis =>
      rw [List.append_assoc]
      exact Frames.cons frame inductionHypothesis

/-- The stream starts with the frame of its first byte string. -/
theorem split_first
    {bytes : List Byte} {rest : List (List Byte)} {beats : List Beat}
    (frames : Frames holds last width (bytes :: rest) beats) :
    ∃ first later,
      beats = first ++ later ∧
      IsFrame holds last width bytes first ∧
      Frames holds last width rest later := by
  cases frames with
  | cons frame tail =>
      exact ⟨_, _, rfl, frame, tail⟩

/-- A stream of frames determines the byte strings it carries. -/
theorem unique
    (holdsUnique :
      ∀ beat first second,
        holds beat first → holds beat second → first = second)
    {strings others : List (List Byte)} {beats : List Beat}
    (left : Frames holds last width strings beats)
    (right : Frames holds last width others beats) :
    strings = others := by
  induction left generalizing others with
  | nil =>
      generalize emptyEq : ([] : List Beat) = beats at right
      cases right with
      | nil =>
          rfl
      | cons frame _ =>
          have nonempty := frame.beats_ne_nil
          simp_all
  | @cons bytes beats restBytes restBeats frame rest
      inductionHypothesis =>
      generalize streamEq : beats ++ restBeats = stream at right
      cases right with
      | nil =>
          have nonempty := frame.beats_ne_nil
          simp_all
      | @cons other otherBeats otherBytes otherRest otherFrame tail =>
          obtain ⟨rfl, rfl⟩ :=
            frame.prefix_unique holdsUnique otherFrame streamEq
          rw [inductionHypothesis tail]

end Frames

/-! ## Beats that carry the same -/

section Related

variable {related : Beat → Beat → Prop}

theorem IsFrame.ofRelated
    (sameHolds :
      ∀ beat other bytes,
        related beat other → holds beat bytes → holds other bytes)
    (sameLast : ∀ beat other, related beat other → last other = last beat)
    {bytes : List Byte} {beats others : List Beat}
    (frame : IsFrame holds last width bytes beats)
    (each : List.Forall₂ related beats others) :
    IsFrame holds last width bytes others := by
  induction frame generalizing others with
  | final holdsBytes nonempty short raised =>
      cases each with
      | cons same rest =>
          cases rest
          exact
            IsFrame.final (sameHolds _ _ _ same holdsBytes) nonempty short
              ((sameLast _ _ same).trans raised)
  | more holdsChunk full notRaised _ inductionHypothesis =>
      cases each with
      | cons same rest =>
          exact
            IsFrame.more (sameHolds _ _ _ same holdsChunk) full
              ((sameLast _ _ same).trans notRaised)
              (inductionHypothesis rest)

/-- A stream is framed whatever else its beats have. -/
theorem Frames.ofRelated
    (sameHolds :
      ∀ beat other bytes,
        related beat other → holds beat bytes → holds other bytes)
    (sameLast : ∀ beat other, related beat other → last other = last beat)
    {strings : List (List Byte)} {beats others : List Beat}
    (frames : Frames holds last width strings beats)
    (each : List.Forall₂ related beats others) :
    Frames holds last width strings others := by
  induction frames generalizing others with
  | nil =>
      cases each
      exact Frames.nil
  | @cons bytes beats _ restBeats frame _ inductionHypothesis =>
      have first :=
        List.forall₂_take_append others beats restBeats each.flip
      have later :=
        List.forall₂_drop_append others beats restBeats each.flip
      rw [← List.take_append_drop beats.length others]
      exact
        Frames.cons (frame.ofRelated sameHolds sameLast first.flip)
          (inductionHypothesis later.flip)

end Related

/-! ## Streams in pieces -/

section Pieces

/-- Only the final beat of a frame is counted. -/
theorem Delimited.countP_last
    {beats : List Beat} (frame : Delimited last beats) :
    beats.countP last = 1 := by
  induction frame with
  | @final beat raised =>
      rw [List.countP_cons_of_pos raised, List.countP_nil]
  | @more beat beats notRaised _ inductionHypothesis =>
      rw [List.countP_cons_of_neg (Bool.eq_false_iff.1 notRaised),
        inductionHypothesis]

/-- Two frames at the head of the same stream, whatever they carry. -/
theorem Delimited.prefix_eq
    {first second rest others : List Beat}
    (left : Delimited last first) (right : Delimited last second)
    (same : first ++ rest = second ++ others) :
    first = second ∧ rest = others := by
  induction left generalizing second with
  | final raised =>
      cases right with
      | final _ =>
          simp only [List.cons_append, List.nil_append,
            List.cons.injEq] at same
          exact ⟨by rw [same.1], same.2⟩
      | more notRaised _ =>
          simp only [List.cons_append, List.cons.injEq] at same
          rw [same.1, notRaised] at raised
          cases raised
  | more notRaised _ inductionHypothesis =>
      cases right with
      | final raised =>
          simp only [List.cons_append, List.cons.injEq] at same
          rw [same.1, raised] at notRaised
          cases notRaised
      | more _ right =>
          simp only [List.cons_append, List.cons.injEq] at same
          obtain ⟨rfl, tails⟩ := same
          obtain ⟨rfl, restEq⟩ := inductionHypothesis right tails
          exact ⟨rfl, restEq⟩

theorem Frames.countP_last
    {strings : List (List Byte)} {beats : List Beat}
    (frames : Frames holds last width strings beats) :
    beats.countP last = strings.length := by
  induction frames with
  | nil =>
      rfl
  | cons frame _ inductionHypothesis =>
      rw [List.countP_append, frame.delimited.countP_last,
        inductionHypothesis, List.length_cons, Nat.add_comm]

/-- Of pieces that are frames or raise `last` nowhere, all are frames when
there are as many frames as pieces. -/
theorem delimited_of_countP
    {pieces : List (List Beat)}
    (either :
      ∀ piece ∈ pieces,
        Delimited last piece ∨ ∀ beat ∈ piece, last beat = false) :
    pieces.flatten.countP last ≤ pieces.length ∧
      (pieces.flatten.countP last = pieces.length →
        ∀ piece ∈ pieces, Delimited last piece) := by
  induction pieces with
  | nil =>
      exact ⟨Nat.le_refl 0, fun _ piece member => by cases member⟩
  | cons piece pieces inductionHypothesis =>
      obtain ⟨atMost, all⟩ :=
        inductionHypothesis fun other member =>
          either other (List.mem_cons_of_mem piece member)
      rw [List.flatten_cons, List.countP_append, List.length_cons]
      rcases either piece List.mem_cons_self with frame | unended
      · rw [frame.countP_last]
        refine ⟨by omega, fun equal other member => ?_⟩
        rcases List.mem_cons.1 member with rfl | inRest
        · exact frame
        · exact all (by omega) other inRest
      · have none : piece.countP last = 0 := by
          rw [List.countP_eq_zero]
          intro beat member raised
          rw [unended beat member] at raised
          cases raised
        rw [none]
        exact ⟨by omega, fun equal => absurd equal (by omega)⟩

theorem Frames.of_pieces
    {strings : List (List Byte)} {pieces : List (List Beat)}
    (each : List.Forall₂ (IsFrame holds last width) strings pieces) :
    Frames holds last width strings pieces.flatten := by
  induction each with
  | nil =>
      exact Frames.nil
  | cons frame _ inductionHypothesis =>
      exact Frames.cons frame inductionHypothesis

theorem Frames.each_piece
    {strings : List (List Byte)} {pieces : List (List Beat)}
    (delimited : ∀ piece ∈ pieces, Delimited last piece)
    (frames : Frames holds last width strings pieces.flatten) :
    List.Forall₂ (IsFrame holds last width) strings pieces := by
  induction pieces generalizing strings with
  | nil =>
      have none := frames.countP_last
      rw [List.flatten_nil, List.countP_nil] at none
      rw [List.eq_nil_of_length_eq_zero none.symm]
      exact List.Forall₂.nil
  | cons piece pieces inductionHypothesis =>
      have own := delimited piece List.mem_cons_self
      cases strings with
      | nil =>
          have none := frames.eq_nil
          exact
            absurd (List.append_eq_nil_iff.1 none).1 own.beats_ne_nil
      | cons bytes strings =>
          obtain ⟨first, later, same, frame, rest⟩ := frames.split_first
          obtain ⟨rfl, rfl⟩ := own.prefix_eq frame.delimited same
          exact
            List.Forall₂.cons frame
              (inductionHypothesis
                (fun other member =>
                  delimited other (List.mem_cons_of_mem _ member))
                rest)

/-- A stream written in one piece for each of the byte strings is their
frames exactly when every piece is the frame of its own string. -/
theorem Frames.iff_pieces
    {strings : List (List Byte)} {pieces : List (List Beat)}
    (either :
      ∀ piece ∈ pieces,
        Delimited last piece ∨ ∀ beat ∈ piece, last beat = false)
    (sameLength : strings.length = pieces.length) :
    Frames holds last width strings pieces.flatten ↔
      List.Forall₂ (IsFrame holds last width) strings pieces := by
  constructor
  · intro frames
    have count := frames.countP_last.trans sameLength
    exact frames.each_piece ((delimited_of_countP either).2 count)
  · exact Frames.of_pieces

end Pieces

end Framing
