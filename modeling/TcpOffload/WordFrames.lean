import TcpOffload.AxiWord
import TcpOffload.Library.Process

/-!
# Streams of frames

A stream that a process reads frame by frame: what the frames are is known
from the `last` flags of the words alone.
-/

namespace TcpOffload

open Clocked Framing

/-- The words of a frame, only the final one of which raises `last`. -/
structure WordFrame where
  first : NetAXISWord
  rest : List NetAXISWord
  delimited : Delimited NetAXISWord.last (first :: rest)

namespace WordFrame

def words (frame : WordFrame) : List NetAXISWord :=
  frame.first :: frame.rest

/-- A frame of one word. -/
def single (word : NetAXISWord) : WordFrame where
  first := { word with last := true }
  rest := []
  delimited := Delimited.final rfl

/-- The frame of some words, whatever their `last` flags. -/
def ofWords : List NetAXISWord → NetAXISWord → WordFrame
  | [], final => single final
  | word :: words, final =>
      let later := ofWords words final
      { first := { word with last := false }
        rest := later.words
        delimited := Delimited.more rfl later.delimited }

/-- The frames one behind the other. -/
def stream (frames : List WordFrame) : List NetAXISWord :=
  frames.flatMap words

/-- A frame is its first word alone, or has a frame behind it. -/
theorem single_or_more (frame : WordFrame) :
    frame.first.last = true ∧ frame.rest = [] ∨
      frame.first.last = false ∧
        Delimited NetAXISWord.last frame.rest := by
  obtain ⟨first, rest, delimited⟩ := frame
  cases delimited with
  | final raised =>
      exact Or.inl ⟨raised, rfl⟩
  | more notRaised later =>
      exact Or.inr ⟨notRaised, later⟩

end WordFrame

/-! ## Processes that read frame by frame -/

section Frames

variable {State : Type} {Msg : Type}
variable {call : State → State × List Msg}
variable {ready : List NetAXISWord → State → Prop}
variable {wanted : WordFrame → List Msg} {good : WordFrame → Prop}

/-- A process that takes the frames of its input one after the other, and
writes more for some of them than is wanted. -/
theorem yields_frames_iff
    (one :
      ∀ (frame : WordFrame) (later : List NetAXISWord) (state : State),
        ready (frame.words ++ later) state →
          ∃ extra next,
            Runs call state (wanted frame ++ extra) next ∧
              (extra = [] ↔ good frame) ∧ ready later next)
    (rests : ∀ state, ready [] state → Idle call state)
    (frames : List WordFrame) {state : State}
    (isReady : ready (WordFrame.stream frames) state) :
    (∃ final, Yields call state (frames.flatMap wanted) final) ↔
      ∀ frame ∈ frames, good frame :=
  @yields_wanted_iff _ _ call _
    (fun items state => ready (WordFrame.stream items) state) wanted good
    (fun frame later state isReady =>
      one frame (WordFrame.stream later) state isReady)
    rests frames state isReady

end Frames

end TcpOffload
