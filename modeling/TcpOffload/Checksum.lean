import TcpOffload.AxiWord
import TcpOffload.Library.Process

/-!
# Segment checksums

`ComputeSubChecksum` and `CheckChecksum` of `axi_utils`: 32 running sums, one
for each 16-bit lane of a beat, written out at the end of a frame and then
folded into one ones' complement sum.
-/

namespace TcpOffload

open Clocked Framing

/-- `SubChecksum`: the sum of each 16-bit lane. -/
abbrev SubChecksum := Fin 32 → BitVec 17

/-- The carry out of 16 bits added back in. -/
def foldCarry (sum : BitVec 17) : BitVec 17 :=
  (sum + (sum >>> 16)) &&& 0xFFFF

/-- One beat added to the sums.  Of a lane with a single valid byte that byte
is the upper half. -/
def SubChecksum.addWord (sums : SubChecksum) (word : NetAXISWord) :
    SubChecksum := fun lane =>
  if word.keep.getLsbD (2 * lane) && word.keep.getLsbD (2 * lane + 1) then
    foldCarry
      (sums lane +
        (word.byte (2 * lane) ++ word.byte (2 * lane + 1)).setWidth 17)
  else if word.keep.getLsbD (2 * lane) then
    foldCarry
      (sums lane + (word.byte (2 * lane) ++ (0 : BitVec 8)).setWidth 17)
  else
    sums lane

def SubChecksum.zero : SubChecksum :=
  fun _ => 0

structure SubChecksumState where
  tcpChecksums : SubChecksum
  pktIn : List NetAXISWord

/-- `ComputeSubChecksum`. -/
def computeSubChecksum (state : SubChecksumState) :
    SubChecksumState × List SubChecksum :=
  match state.pktIn with
  | [] => (state, [])
  | curWord :: later =>
      if curWord.last then
        (⟨SubChecksum.zero, later⟩, [state.tcpChecksums.addWord curWord])
      else
        (⟨state.tcpChecksums.addWord curWord, later⟩, [])

/-- `CheckChecksum`: the sums folded in halves, complemented. -/
def checkChecksum (subsums : SubChecksum) : BitVec 16 :=
  let sum16 (i : Fin 16) : BitVec 17 :=
    foldCarry (subsums (i.castAdd 16) + subsums (i.natAdd 16))
  let sum8 (i : Fin 8) : BitVec 17 :=
    foldCarry (sum16 (i.castAdd 8) + sum16 (i.natAdd 8))
  let sum4 (i : Fin 4) : BitVec 17 :=
    foldCarry (sum8 (i.castAdd 4) + sum8 (i.natAdd 4))
  let even := foldCarry (sum4 0 + sum4 2)
  let odd := foldCarry (sum4 1 + sum4 3)
  (~~~foldCarry (even + odd)).setWidth 16

/-- The sums over all beats of a frame. -/
def frameSubChecksum (words : List NetAXISWord) : SubChecksum :=
  words.foldl SubChecksum.addWord SubChecksum.zero

theorem runs_computeSubChecksum
    {words : List NetAXISWord} (frame : Delimited NetAXISWord.last words)
    (sums : SubChecksum) (later : List NetAXISWord) :
    Runs computeSubChecksum ⟨sums, words ++ later⟩
      [words.foldl SubChecksum.addWord sums]
      ⟨SubChecksum.zero, later⟩ := by
  induction frame generalizing sums with
  | @final word raised =>
      have called :
          computeSubChecksum ⟨sums, [word] ++ later⟩ =
            (⟨SubChecksum.zero, later⟩, [sums.addWord word]) := by
        simp [computeSubChecksum, raised]
      exact Runs.head called (Runs.refl _)
  | @more word words notRaised _ inductionHypothesis =>
      have called :
          computeSubChecksum ⟨sums, (word :: words) ++ later⟩ =
            (⟨sums.addWord word, words ++ later⟩, []) := by
        simp [computeSubChecksum, notRaised]
      exact Runs.silent called (inductionHypothesis (sums.addWord word))

/-- Every frame gets the sums over its own beats. -/
theorem yields_computeSubChecksum
    {frames : List (List NetAXISWord)}
    (delimited :
      ∀ words ∈ frames, Delimited NetAXISWord.last words) :
    Yields computeSubChecksum ⟨SubChecksum.zero, frames.flatten⟩
      (frames.map frameSubChecksum) ⟨SubChecksum.zero, []⟩ := by
  induction frames with
  | nil =>
      exact ⟨Runs.refl _, rfl⟩
  | cons words frames inductionHypothesis =>
      have first :=
        runs_computeSubChecksum (delimited words List.mem_cons_self)
          SubChecksum.zero frames.flatten
      have rest :=
        inductionHypothesis fun other member =>
          delimited other (List.mem_cons_of_mem words member)
      exact Yields.prepend first rest

end TcpOffload
