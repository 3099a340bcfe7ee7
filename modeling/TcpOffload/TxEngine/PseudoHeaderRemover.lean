import TcpOffload.TxEngine.Ipv4Packet

/-!
# The frames of `TxEngRemovePseudoHeader`

Every segment leaves as the frame of its bytes behind the pseudo header.
-/

namespace TcpOffload

open Clocked Framing

theorem withoutPseudoHeader_eq (curWord prevWord : NetAXISWord) :
    withoutPseudoHeader curWord prevWord =
      joinWords noDest curWord prevWord 12 :=
  (@joinWords_eq_concat noDest curWord prevWord 12 (by decide)).symm

section Remover

variable {words later : List NetAXISWord}

theorem runs_readMorePayload
    (frame : Delimited NetAXISWord.last words) (prevWord : NetAXISWord) :
    ∃ held,
      Runs txEngRemovePseudoHeader
        ⟨.readMorePayload, prevWord, words ++ later⟩
        (realign noDest 12 prevWord words)
        ⟨.read, held, later⟩ := by
  induction frame generalizing prevWord with
  | @final curWord raised =>
      cases long : curWord.keep.getLsbD 12 with
      | false =>
          have called :
              txEngRemovePseudoHeader
                  ⟨.readMorePayload, prevWord, [curWord] ++ later⟩ =
                (⟨.read, curWord, later⟩,
                  [(joinWords noDest curWord prevWord 12).withLast
                    true]) := by
            simp only [txEngRemovePseudoHeader, List.cons_append,
              List.nil_append, raised, long, if_true, Bool.false_eq_true,
              if_false, Bool.not_false, Bool.and_true,
              withoutPseudoHeader_eq]
          rw [@realign_of_ended _ 12 _ _ _ raised long]
          exact ⟨curWord, Runs.single called⟩
      | true =>
          have called :
              txEngRemovePseudoHeader
                  ⟨.readMorePayload, prevWord, [curWord] ++ later⟩ =
                (⟨.extraWord, curWord, later⟩,
                  [(joinWords noDest curWord prevWord 12).withLast
                    false]) := by
            simp only [txEngRemovePseudoHeader, List.cons_append,
              List.nil_append, raised, long, if_true, Bool.not_true,
              Bool.and_false, withoutPseudoHeader_eq]
          have ended :
              txEngRemovePseudoHeader ⟨.extraWord, curWord, later⟩ =
                (⟨.read, curWord, later⟩,
                  realign noDest 12 curWord []) := by
            simp only [txEngRemovePseudoHeader, withoutPseudoHeader_eq,
              realign]
          rw [realign_of_extra long]
          exact ⟨curWord, Runs.head called (Runs.single ended)⟩
  | @more curWord words notRaised _ inductionHypothesis =>
      obtain ⟨held, run⟩ := inductionHypothesis curWord
      have called :
          txEngRemovePseudoHeader
              ⟨.readMorePayload, prevWord, (curWord :: words) ++ later⟩ =
            (⟨.readMorePayload, curWord, words ++ later⟩,
              [(joinWords noDest curWord prevWord 12).withLast
                false]) := by
        simp only [txEngRemovePseudoHeader, List.cons_append, notRaised,
          Bool.false_eq_true, if_false, Bool.false_and,
          withoutPseudoHeader_eq]
      rw [realign_of_more notRaised]
      exact ⟨held, Runs.head called run⟩

theorem runs_removePseudoHeader
    {first : NetAXISWord}
    (frame : Delimited NetAXISWord.last (first :: words))
    (prevWord : NetAXISWord) :
    ∃ held,
      Runs txEngRemovePseudoHeader
        ⟨.read, prevWord, (first :: words) ++ later⟩
        (realign noDest 12 first words)
        ⟨.read, held, later⟩ := by
  cases frame with
  | final raised =>
      refine ⟨prevWord, Runs.single ?_⟩
      simp only [txEngRemovePseudoHeader, List.cons_append,
        List.nil_append, raised, if_true, withoutPseudoHeader_eq, realign]
  | more notRaised rest =>
      obtain ⟨held, run⟩ := @runs_readMorePayload words later rest first
      refine ⟨held, Runs.silent ?_ run⟩
      simp only [txEngRemovePseudoHeader, List.cons_append, notRaised,
        Bool.false_eq_true, if_false]

end Remover

/-- Segments longer than their pseudo headers leave as the frames of what is
behind. -/
theorem yields_removePseudoHeader
    {strings : List (List (BitVec 8))} {stream : List NetAXISWord}
    (frames : AxiFrames strings stream)
    (longer : ∀ bytes ∈ strings, 12 < bytes.length)
    (prevWord : NetAXISWord) :
    ∃ out final,
      Yields txEngRemovePseudoHeader ⟨.read, prevWord, stream⟩ out
        final ∧
      AxiFrames (strings.map fun bytes => bytes.drop 12) out := by
  induction frames generalizing prevWord with
  | nil =>
      exact ⟨[], _, ⟨Runs.refl _, rfl⟩, Frames.nil⟩
  | @cons bytes beats _ _ frame _ inductionHypothesis =>
      obtain ⟨own, others⟩ := List.forall_mem_cons.1 longer
      cases beats with
      | nil =>
          exact absurd rfl frame.beats_ne_nil
      | cons first words =>
          obtain ⟨held, run⟩ :=
            runs_removePseudoHeader frame.delimited prevWord
          obtain ⟨out, final, yields, framed⟩ :=
            inductionHypothesis others held
          have left : bytes.drop (12 : BitVec 6).toNat ≠ [] := by
            intro none
            have noBytes := congrArg List.length none
            rw [List.length_drop, List.length_nil] at noBytes
            have twelve : (12 : BitVec 6).toNat = 12 := rfl
            omega
          have removed :=
            @realign_isFrame noDest 12 first words bytes (by decide) frame
              left
          exact
            ⟨_, final, Yields.prepend run yields,
              Frames.cons removed framed⟩

end TcpOffload
