import RoqPython.Lib.Framing
import RoqPython.Fix.Types

/-!
# The FIX Session Sample

`Client.data_received` of `samples/fix_session.py`: the data is logged, appended to a
buffer, and the buffer is drained through the decoder. What is logged is `data.decode()`,
which raises when a chunk is not valid UTF-8, and it is evaluated before the data is
appended to the buffer.

## Main results

* `data_received_iff`: every call comes to the end of its loop, every frame is delivered
  once and in order, and the unfinished frame is left in the buffer, exactly when every
  chunk is valid UTF-8.
-/

namespace RoqPython.FixSession

open Framing

variable {μ : Type}

/-- `Client`: the messages that the callback was invoked with, and the buffer. -/
structure Client (μ : Type) where
  messages : List μ
  decodeBuffer : Bytes

/-- Whether `data.decode()` returns. -/
def isUtf8 (data : Bytes) : Bool := (ByteArray.mk data.toArray).validateUTF8

/-- `Client.data_received`. It is `none` when the call raises, before it has changed
anything. -/
def Client.dataReceived (dispatch : Bytes → ℕ × List μ) (self : Client μ) (data : Bytes) :
    Option (Client μ) :=
  if isUtf8 data then
    let (messages, decodeBuffer) :=
      receive dispatch (self.messages, self.decodeBuffer) data
    some ⟨messages, decodeBuffer⟩
  else none

/-- A run over chunks: the client at the end, and whether every call returned. -/
def Client.run (dispatch : Bytes → ℕ × List μ) : Client μ → List Bytes → Client μ × Bool
  | self, [] => (self, true)
  | self, data :: chunks =>
      match self.dataReceived dispatch data with
      | some self => run dispatch self chunks
      | none => ((run dispatch self chunks).1, false)

variable {dispatch : Bytes → ℕ × List μ} {self : Client μ}

/-- A run returns from every call exactly when every chunk is valid UTF-8. -/
theorem run_snd_iff {chunks : List Bytes} :
    (self.run dispatch chunks).2 = true ↔ ∀ data ∈ chunks, isUtf8 data = true := by
  induction chunks generalizing self with
  | nil => simp [Client.run]
  | cons data chunks ih =>
      rw [List.forall_mem_cons]
      by_cases hdata : isUtf8 data = true
      · simp only [Client.run, Client.dataReceived, if_pos hdata]
        rw [ih]
        exact (and_iff_right hdata).symm
      · simp only [Client.run, Client.dataReceived, if_neg hdata]
        exact iff_of_false Bool.false_ne_true fun h => hdata h.1

/-- A run that returns from every call receives every chunk. -/
theorem run_of_utf8 {chunks : List Bytes} (h : ∀ data ∈ chunks, isUtf8 data = true) :
    (self.run dispatch chunks).1 =
      let (messages, decodeBuffer) :=
        chunks.foldl (receive dispatch) (self.messages, self.decodeBuffer)
      ⟨messages, decodeBuffer⟩ := by
  induction chunks generalizing self with
  | nil => rfl
  | cons data chunks ih =>
      obtain ⟨hdata, hchunks⟩ := List.forall_mem_cons.mp h
      simp only [Client.run, Client.dataReceived, if_pos hdata, List.foldl_cons]
      exact ih hchunks

/-- **Any cut.** The outcome of a run is the one that the stream calls for, wherever the
stream was cut, exactly when every chunk is valid UTF-8. -/
theorem data_received_iff {IsFrame : Bytes → Prop} {decode : Bytes → μ}
    (hdecodes : Decodes IsFrame decode dispatch) {frames : List Bytes}
    (hframes : ∀ f ∈ frames, IsFrame f) {p : Bytes} (hp : Unfinished IsFrame p)
    {chunks : List Bytes} (hstream : chunks.flatten = frames.flatten ++ p) :
    (Client.mk [] []).run dispatch chunks = (⟨frames.map decode, p⟩, true) ↔
      ∀ data ∈ chunks, isUtf8 data = true := by
  constructor
  · intro h
    exact run_snd_iff.mp (congrArg Prod.snd h)
  · intro h
    have hnil : Unfinished IsFrame [] := hp.of_prefix List.nil_prefix
    refine Prod.ext ?_ (run_snd_iff.mpr h)
    rw [run_of_utf8 h, hdecodes.foldl_receive hframes hp hnil hstream.symm]
    rfl

/-! ### Two streams -/

/-- `8=FIX.4.4|9=5|35=0|10=163|`. -/
def heartbeat : Bytes :=
  [56, 61, 70, 73, 88, 46, 52, 46, 52, 1, 57, 61, 53, 1, 51, 53, 61, 48, 1, 49, 48, 61, 49,
    54, 51, 1]

/-- `8=FIX.4.4|9=13|35=5|58=...|10=149|`, where the text is `café` in Latin-1. -/
def logout : Bytes :=
  [56, 61, 70, 73, 88, 46, 52, 46, 52, 1, 57, 61, 49, 51, 1, 51, 53, 61, 53, 1, 53, 56, 61,
    99, 97, 102, 233, 1, 49, 48, 61, 49, 52, 57, 1]

/-- A decoder that knows one frame, and delivers its bytes. -/
def decodeOne (frame buffer : Bytes) : ℕ × List Bytes :=
  if frame <+: buffer then (frame.length, [frame]) else (0, [])

theorem decodes_decodeOne {frame : Bytes} (hframe : frame ≠ []) :
    Decodes (· = frame) id (decodeOne frame) := by
  refine ⟨?_, ?_, ?_⟩
  · rintro f rfl
    exact hframe
  · rintro p ⟨f, rfl, hp, hne⟩
    refine if_neg fun h => hne ?_
    exact hp.eq_of_length_le h.length_le
  · rintro f rest rfl
    exact if_pos (List.prefix_append _ rest)

/-- Two heartbeats and the start of a third one, cut inside the second. -/
theorem data_received_heartbeat :
    (Client.mk [] []).run (decodeOne heartbeat)
        [heartbeat ++ heartbeat.take 11, heartbeat.drop 11 ++ heartbeat.take 3] =
      (⟨[heartbeat, heartbeat].map id, heartbeat.take 3⟩, true) := by
  have hdecodes : Decodes (· = heartbeat) id (decodeOne heartbeat) :=
    decodes_decodeOne (by decide)
  have hframes : ∀ f ∈ [heartbeat, heartbeat], f = heartbeat := by simp
  have hp : Unfinished (· = heartbeat) (heartbeat.take 3) :=
    ⟨heartbeat, rfl, List.take_prefix _ _, by decide⟩
  exact (data_received_iff hdecodes hframes hp (by decide)).mpr (by decide)

/-- The logout arrives in one chunk: the call raises, the bytes are lost and nothing is
delivered. -/
theorem data_received_latin1 :
    Decodes (· = logout) id (decodeOne logout) ∧ Unfinished (· = logout) [] ∧
      (Client.mk [] []).run (decodeOne logout) [logout] = (⟨[], []⟩, false) ∧
      (Client.mk [] []).run (decodeOne logout) [logout] ≠ (⟨[logout], []⟩, true) := by
  have hlogout : isUtf8 logout = false := by decide
  have hrun : (Client.mk [] []).run (decodeOne logout) [logout] = (⟨[], []⟩, false) := by
    simp [Client.run, Client.dataReceived, hlogout]
  refine ⟨decodes_decodeOne (by decide), ⟨logout, rfl, List.nil_prefix, by decide⟩, hrun, ?_⟩
  rw [hrun]
  exact fun h => Bool.false_ne_true (congrArg Prod.snd h)

end RoqPython.FixSession
