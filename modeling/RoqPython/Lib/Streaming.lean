import RoqPython.Lib.Framing
import RoqPython.Lib.Raising

/-!
# Handling a Framed Stream

A receiver that drains its buffer through a decoder, where each message that the decoder
delivers is handed to a handler that changes a state and may raise. An exception ends the
drain in the middle of the buffer: nothing more is cut off it.

The messages do not depend on the handler. A drain with a handler is therefore a run of the
handler over the messages of a plain drain, and what is true of plain drains carries over.

## Main results

* `drainWith_fst`: a drain with a handler is a run of the handler over the messages that the
  plain drain delivers.
* `Decodes.run_receiveWith`: wherever a stream is cut into chunks, handling the chunks is a
  run of the handler over the frames.
-/

namespace Framing

open Raising

variable {α μ σ ε : Type*}

/-- Drain a buffer like `drain`, and hand each message to the handler when the decoder
delivers it. -/
def drainWith (dispatch : List α → ℕ × List μ) (handle : σ → μ → σ × Option ε) (s : σ)
    (buffer : List α) : (σ × Option ε) × List α :=
  let result := dispatch buffer
  let handled := run handle s result.2
  match handled.2 with
  | some _ => (handled, buffer)
  | none =>
      if _hlength : result.1 = 0 then (handled, buffer)
      else if _hrest : buffer.drop result.1 = [] then (handled, [])
      else drainWith dispatch handle handled.1 (buffer.drop result.1)
termination_by buffer.length
decreasing_by
  have hpos : 0 < (buffer.drop (dispatch buffer).1).length := List.length_pos_iff.mpr _hrest
  rw [List.length_drop] at hpos ⊢
  have hne : (dispatch buffer).1 ≠ 0 := _hlength
  omega

/-- What a receiver with a handler does with a chunk: the state and the buffer. -/
def receiveWith (dispatch : List α → ℕ × List μ) (handle : σ → μ → σ × Option ε)
    (state : σ × List α) (chunk : List α) : (σ × List α) × Option ε :=
  let result := drainWith dispatch handle state.1 (state.2 ++ chunk)
  ((result.1.1, result.2), result.1.2)

variable {dispatch : List α → ℕ × List μ} {handle : σ → μ → σ × Option ε}

/-- **The messages do not depend on the handler.** A drain with a handler is a run over the
messages of the plain drain. -/
theorem drainWith_fst (s : σ) (buffer : List α) :
    (drainWith dispatch handle s buffer).1 = run handle s (drain dispatch buffer).1 := by
  induction hn : buffer.length using Nat.strongRecOn generalizing s buffer with
  | ind n ih =>
      subst hn
      rw [drainWith, drain]
      dsimp only
      cases hhandled : (run handle s (dispatch buffer).2).2 with
      | some error =>
          -- The rest of the messages is not handled.
          dsimp only
          split
          · rfl
          · split
            · rfl
            · rw [run_append, andThen_of_some hhandled]
      | none =>
          dsimp only
          split
          · rfl
          · next hlength =>
              split
              · rfl
              · next hrest =>
                  have hshorter : (buffer.drop (dispatch buffer).1).length < buffer.length := by
                    have hpos := List.length_pos_iff.mpr hrest
                    rw [List.length_drop] at hpos ⊢
                    omega
                  rw [run_append, andThen_of_none hhandled]
                  exact ih _ hshorter _ _ rfl

/-- A drain with a handler that does not raise leaves the buffer of the plain drain. -/
theorem drainWith_snd {s : σ} {buffer : List α}
    (h : (drainWith dispatch handle s buffer).1.2 = none) :
    (drainWith dispatch handle s buffer).2 = (drain dispatch buffer).2 := by
  induction hn : buffer.length using Nat.strongRecOn generalizing s buffer with
  | ind n ih =>
      subst hn
      rw [drainWith] at h ⊢
      rw [drain]
      dsimp only at h ⊢
      cases hhandled : (run handle s (dispatch buffer).2).2 with
      | some error => simp [hhandled] at h
      | none =>
          simp only [hhandled] at h ⊢
          split at h
          · next hlength => rw [dif_pos hlength, dif_pos hlength]
          · next hlength =>
              rw [dif_neg hlength, dif_neg hlength]
              split at h
              · next hrest => rw [dif_pos hrest, dif_pos hrest]
              · next hrest =>
                  have hshorter : (buffer.drop (dispatch buffer).1).length < buffer.length := by
                    have hpos := List.length_pos_iff.mpr hrest
                    rw [List.length_drop] at hpos ⊢
                    omega
                  rw [dif_neg hrest, dif_neg hrest]
                  exact ih _ hshorter h rfl

/-- A postcondition of the handler is one of the receiver, whatever the decoder delivers. -/
theorem ensures_receiveWith (dispatch : List α → ℕ × List μ) {P E : σ → Prop}
    (hhandle : ∀ s x, P s → Ensures P E (handle s x)) {state : σ × List α} (hs : P state.1)
    (chunk : List α) :
    Ensures (fun state => P state.1) (fun state => E state.1)
      (receiveWith dispatch handle state chunk) := by
  have hrun := Ensures.run hhandle (drain dispatch (state.2 ++ chunk)).1 hs
  rw [← drainWith_fst] at hrun
  exact hrun

variable {IsFrame : List α → Prop} {decode : List α → μ}

/-- The decoder finds the same frames when the messages are changed before they are
delivered. -/
theorem Decodes.map (h : Decodes IsFrame decode dispatch) {ν : Type*} (g : μ → ν) :
    Decodes IsFrame (fun f => g (decode f))
      (fun buffer => ((dispatch buffer).1, (dispatch buffer).2.map g)) where
  nonempty := h.nonempty
  unfinished p hp := by
    rw [h.unfinished p hp]
    rfl
  complete f rest hf := by
    rw [h.complete f rest hf]
    rfl

/-- An unfinished frame does not begin with complete ones. -/
theorem Decodes.frames_eq_nil (h : Decodes IsFrame decode dispatch) {frames : List (List α)}
    (hframes : ∀ f ∈ frames, IsFrame f) {q : List α} (hq : Unfinished IsFrame q)
    (hstarts : frames.flatten <+: q) : frames = [] := by
  cases frames with
  | nil => rfl
  | cons f frames =>
      refine absurd ?_ (h.not_prefix (hframes f List.mem_cons_self) hq)
      exact (List.prefix_append f frames.flatten).trans hstarts

/-- One chunk, when the buffer holds an unfinished frame and the rest of the stream goes on
from it: the handler runs over the frames that the chunk completes. -/
theorem Decodes.exists_receiveWith (h : Decodes IsFrame decode dispatch)
    (handle : σ → μ → σ × Option ε) {frames : List (List α)}
    (hframes : ∀ f ∈ frames, IsFrame f) {p q chunk rest : List α} (hp : Unfinished IsFrame p)
    (hstream : frames.flatten ++ p = q ++ chunk ++ rest) :
    ∃ done todo q', frames = done ++ todo ∧ Unfinished IsFrame q' ∧
      q ++ chunk = done.flatten ++ q' ∧ todo.flatten ++ p = q' ++ rest ∧
      ∀ s : σ, (receiveWith dispatch handle (s, q) chunk).1.1 =
          (run handle s (done.map decode)).1 ∧
        (receiveWith dispatch handle (s, q) chunk).2 = (run handle s (done.map decode)).2 ∧
        ((receiveWith dispatch handle (s, q) chunk).2 = none →
          (receiveWith dispatch handle (s, q) chunk).1.2 = q') := by
  obtain ⟨done, todo, q', rfl, hbuffer, hq', hrest⟩ := exists_cut hframes hp hstream
  have hdone : ∀ f ∈ done, IsFrame f := fun f hf => hframes f (List.mem_append_left _ hf)
  have hdrain : drain dispatch (q ++ chunk) = (done.map decode, q') := by
    rw [hbuffer, h.drain_frames hdone hq']
  refine ⟨done, todo, q', rfl, hq', hbuffer, hrest, fun s => ?_⟩
  have hhandled : (drainWith dispatch handle s (q ++ chunk)).1 =
      run handle s (done.map decode) := by rw [drainWith_fst, hdrain]
  refine ⟨congrArg Prod.fst hhandled, congrArg Prod.snd hhandled, fun hnone => ?_⟩
  have hreturned : (drainWith dispatch handle s (q ++ chunk)).1.2 = none := hnone
  exact (drainWith_snd hreturned).trans (congrArg Prod.snd hdrain)

/-- **Chunks.** Handling the chunks of a stream, up to the first exception, is a run of the
handler over its complete frames; and when nothing is raised, the buffer holds the unfinished
one. -/
theorem Decodes.run_receiveWith (h : Decodes IsFrame decode dispatch)
    (handle : σ → μ → σ × Option ε) {frames : List (List α)}
    (hframes : ∀ f ∈ frames, IsFrame f) {p q : List α} (hp : Unfinished IsFrame p)
    (hq : Unfinished IsFrame q) {chunks : List (List α)}
    (hstream : frames.flatten ++ p = q ++ chunks.flatten) (s : σ) :
    (run (receiveWith dispatch handle) (s, q) chunks).1.1 =
        (run handle s (frames.map decode)).1 ∧
      (run (receiveWith dispatch handle) (s, q) chunks).2 =
        (run handle s (frames.map decode)).2 ∧
      ((run (receiveWith dispatch handle) (s, q) chunks).2 = none →
        (run (receiveWith dispatch handle) (s, q) chunks).1.2 = p) := by
  induction chunks generalizing frames q s with
  | nil =>
      rw [List.flatten_nil, List.append_nil] at hstream
      obtain rfl : frames = [] := h.frames_eq_nil hframes hq ⟨p, hstream⟩
      exact ⟨rfl, rfl, fun _ => hstream.symm⟩
  | cons chunk chunks ih =>
      rw [List.flatten_cons, ← List.append_assoc] at hstream
      obtain ⟨done, todo, q', rfl, hq', -, hrest, hreceive⟩ :=
        h.exists_receiveWith handle hframes hp hstream
      have htodo : ∀ f ∈ todo, IsFrame f := fun f hf => hframes f (List.mem_append_right _ hf)
      obtain ⟨hstate, herror, hbuffer⟩ := hreceive s
      rw [run_cons, List.map_append, run_append]
      cases hraised : (receiveWith dispatch handle (s, q) chunk).2 with
      | some error =>
          rw [hraised] at herror
          rw [andThen_of_some hraised, andThen_of_some herror.symm, hraised]
          exact ⟨hstate, herror, nofun⟩
      | none =>
          rw [hraised] at herror
          rw [andThen_of_none hraised, andThen_of_none herror.symm, ← hstate]
          have hnext : (receiveWith dispatch handle (s, q) chunk).1 =
              ((receiveWith dispatch handle (s, q) chunk).1.1, q') :=
            Prod.ext rfl (hbuffer hraised)
          rw [hnext]
          exact ih htodo hq' hrest _

end Framing
