import Mathlib.Data.List.Basic
import Mathlib.Data.List.Infix

/-!
# Framing

A stream is a concatenation of frames, and arrives in chunks that know nothing of frames. A
receiver appends each chunk to a buffer and drains it: it calls a decoder on the whole
buffer as long as the decoder finds a frame at its front, and cuts that frame off.

The decoder is a function from a buffer to the length that it consumed, zero when it needs
more data, and the messages that it delivered. `Decodes` says what is expected of it.

## Main results

* `drain_frames`: draining delivers the complete frames and leaves the unfinished one.
* `exists_cut`: a stream is cut at any place into complete frames, an unfinished one, and
  the rest of the stream.
* `foldl_receive`: what was delivered after all chunks, and what is left in the buffer, does
  not depend on the cuts.
-/

namespace Framing

variable {α μ : Type*}

/-! ### Draining a buffer -/

/-- Call the decoder on the buffer until it needs more data, or the buffer is empty. Every
further turn of the loop has a shorter buffer. -/
def drain (dispatch : List α → ℕ × List μ) (buffer : List α) : List μ × List α :=
  let result := dispatch buffer
  if _hlength : result.1 = 0 then (result.2, buffer)
  else if _hrest : buffer.drop result.1 = [] then (result.2, [])
  else
    let next := drain dispatch (buffer.drop result.1)
    (result.2 ++ next.1, next.2)
termination_by buffer.length
decreasing_by
  have hpos : 0 < (buffer.drop (dispatch buffer).1).length := List.length_pos_iff.mpr _hrest
  rw [List.length_drop] at hpos ⊢
  have hne : (dispatch buffer).1 ≠ 0 := _hlength
  omega

/-- What a receiver does with a chunk: the messages so far, and the buffer. -/
def receive (dispatch : List α → ℕ × List μ) (state : List μ × List α) (chunk : List α) :
    List μ × List α :=
  let result := drain dispatch (state.2 ++ chunk)
  (state.1 ++ result.1, result.2)

/-! ### Frames -/

/-- A proper prefix of a frame. -/
def Unfinished (IsFrame : List α → Prop) (p : List α) : Prop :=
  ∃ f, IsFrame f ∧ p <+: f ∧ p ≠ f

/-- A decoder of frames: it waits for the end of an unfinished frame, and delivers one
message for a frame at the front of the buffer. -/
structure Decodes (IsFrame : List α → Prop) (decode : List α → μ)
    (dispatch : List α → ℕ × List μ) : Prop where
  nonempty : ∀ f, IsFrame f → f ≠ []
  unfinished : ∀ p, Unfinished IsFrame p → dispatch p = (0, [])
  complete : ∀ f rest, IsFrame f → dispatch (f ++ rest) = (f.length, [decode f])

variable {IsFrame : List α → Prop} {decode : List α → μ} {dispatch : List α → ℕ × List μ}

/-- A prefix of an unfinished frame is unfinished. -/
theorem Unfinished.of_prefix {p q : List α} (hp : Unfinished IsFrame p) (hq : q <+: p) :
    Unfinished IsFrame q := by
  obtain ⟨f, hf, hpf, hne⟩ := hp
  refine ⟨f, hf, hq.trans hpf, ?_⟩
  rintro rfl
  exact hne (hpf.eq_of_length_le hq.length_le)

namespace Decodes

variable (h : Decodes IsFrame decode dispatch)
include h

/-- Where there is a frame, nothing is an unfinished one. -/
theorem unfinished_nil {f : List α} (hf : IsFrame f) : Unfinished IsFrame [] :=
  ⟨f, hf, List.nil_prefix, (h.nonempty f hf).symm⟩

/-- No unfinished frame begins with a frame. -/
theorem not_prefix {f p : List α} (hf : IsFrame f) (hp : Unfinished IsFrame p) :
    ¬ f <+: p := by
  rintro ⟨rest, rfl⟩
  have hlength : (f.length, [decode f]) = (0, []) :=
    (h.complete f rest hf).symm.trans (h.unfinished _ hp)
  cases congrArg Prod.snd hlength

/-- An unfinished frame stays in the buffer. -/
theorem drain_unfinished {p : List α} (hp : Unfinished IsFrame p) :
    drain dispatch p = ([], p) := by
  rw [drain]
  simp [h.unfinished p hp]

/-- A frame at the front of the buffer is delivered and cut off. -/
theorem drain_frame {f : List α} (hf : IsFrame f) (rest : List α) :
    drain dispatch (f ++ rest) =
      (decode f :: (drain dispatch rest).1, (drain dispatch rest).2) := by
  have hlength : f.length ≠ 0 := fun hzero => h.nonempty f hf (List.length_eq_zero_iff.mp hzero)
  rw [drain]
  simp only [h.complete f rest hf, dif_neg hlength, List.drop_left]
  by_cases hrest : rest = []
  · rw [dif_pos hrest, hrest, h.drain_unfinished (h.unfinished_nil hf)]
  · rw [dif_neg hrest]
    rfl

/-- **Draining.** The complete frames are delivered in order, and the unfinished one stays in
the buffer. -/
theorem drain_frames {frames : List (List α)} (hframes : ∀ f ∈ frames, IsFrame f)
    {p : List α} (hp : Unfinished IsFrame p) :
    drain dispatch (frames.flatten ++ p) = (frames.map decode, p) := by
  induction frames with
  | nil => exact h.drain_unfinished hp
  | cons f frames ih =>
      obtain ⟨hf, hframes⟩ := List.forall_mem_cons.mp hframes
      rw [List.flatten_cons, List.append_assoc, h.drain_frame hf, ih hframes, List.map_cons]

end Decodes

/-! ### Cuts -/

/-- **Cuts.** Where a stream is cut, some frames are complete, one is unfinished, and the
rest of the stream goes on from there. -/
theorem exists_cut {frames : List (List α)} (hframes : ∀ f ∈ frames, IsFrame f)
    {p a b : List α} (hp : Unfinished IsFrame p) (hcut : frames.flatten ++ p = a ++ b) :
    ∃ done todo q, frames = done ++ todo ∧ a = done.flatten ++ q ∧ Unfinished IsFrame q ∧
      todo.flatten ++ p = q ++ b := by
  induction frames generalizing a with
  | nil =>
      refine ⟨[], [], a, rfl, rfl, hp.of_prefix ⟨b, ?_⟩, hcut⟩
      exact hcut.symm
  | cons f frames ih =>
      obtain ⟨hf, hframes⟩ := List.forall_mem_cons.mp hframes
      rw [List.flatten_cons, List.append_assoc] at hcut
      by_cases hprefix : f <+: a
      · -- The cut is behind the first frame.
        obtain ⟨c, rfl⟩ := hprefix
        rw [List.append_assoc, List.append_cancel_left_eq] at hcut
        obtain ⟨done, todo, q, rfl, rfl, hq, hrest⟩ := ih hframes hcut
        refine ⟨f :: done, todo, q, rfl, ?_, hq, hrest⟩
        rw [List.flatten_cons, List.append_assoc]
      · -- The cut is in the first frame.
        have hcutA : a <+: a ++ b := List.prefix_append a b
        have hcutF : f <+: a ++ b := ⟨_, hcut⟩
        have ha : a <+: f :=
          (List.prefix_or_prefix_of_prefix hcutA hcutF).resolve_right hprefix
        refine ⟨[], f :: frames, a, rfl, rfl, ⟨f, hf, ha, ?_⟩, ?_⟩
        · rintro rfl
          exact hprefix List.prefix_rfl
        · rw [List.flatten_cons, List.append_assoc, hcut]

/-! ### Chunks -/

/-- One chunk, when the buffer holds an unfinished frame and the rest of the stream goes on
from it: the frames that the chunk completes are delivered. -/
theorem Decodes.exists_receive (h : Decodes IsFrame decode dispatch)
    {frames : List (List α)} (hframes : ∀ f ∈ frames, IsFrame f) {p q chunk rest : List α}
    (hp : Unfinished IsFrame p) (hstream : frames.flatten ++ p = q ++ chunk ++ rest)
    (messages : List μ) :
    ∃ done todo q', frames = done ++ todo ∧ Unfinished IsFrame q' ∧
      todo.flatten ++ p = q' ++ rest ∧
      receive dispatch (messages, q) chunk = (messages ++ done.map decode, q') := by
  obtain ⟨done, todo, q', rfl, hbuffer, hq', hrest⟩ := exists_cut hframes hp hstream
  have hdone : ∀ f ∈ done, IsFrame f := fun f hf => hframes f (List.mem_append_left _ hf)
  refine ⟨done, todo, q', rfl, hq', hrest, ?_⟩
  rw [receive, hbuffer, h.drain_frames hdone hq']

/-- **Chunks.** When all chunks of a stream have been received, all its complete frames have
been delivered, once and in order, and the buffer holds the unfinished one. -/
theorem Decodes.foldl_receive (h : Decodes IsFrame decode dispatch)
    {frames : List (List α)} (hframes : ∀ f ∈ frames, IsFrame f) {p q : List α}
    (hp : Unfinished IsFrame p) (hq : Unfinished IsFrame q) {chunks : List (List α)}
    (hstream : frames.flatten ++ p = q ++ chunks.flatten) (messages : List μ) :
    chunks.foldl (receive dispatch) (messages, q) = (messages ++ frames.map decode, p) := by
  induction chunks generalizing frames q messages with
  | nil =>
      rw [List.flatten_nil, List.append_nil] at hstream
      cases frames with
      | nil => simp [← hstream]
      | cons f frames =>
          -- An unfinished frame does not begin with a complete one.
          refine absurd ⟨frames.flatten ++ p, ?_⟩ (h.not_prefix (hframes f (by simp)) hq)
          rw [← hstream, List.flatten_cons, List.append_assoc]
  | cons chunk chunks ih =>
      rw [List.flatten_cons, ← List.append_assoc] at hstream
      obtain ⟨done, todo, q', rfl, hq', hrest, hreceive⟩ :=
        h.exists_receive hframes hp hstream messages
      have htodo : ∀ f ∈ todo, IsFrame f := fun f hf => hframes f (List.mem_append_right _ hf)
      rw [List.foldl_cons, hreceive, ih htodo hq' hrest, List.map_append, List.append_assoc]

end Framing
