import Mathlib.Logic.Function.Basic
import RoqPython.Lib.Region
import RoqPython.Fix.Message

/-!
# Memory

Where text lives. A `std::string` member of a live object is a region of its own, named by
the object and the path of the member; a buffer that Python passes in is a region as well.
A `std::string_view` is a view into one of these regions (`Lib.Region`).

Most members own their text. Two kinds of members do not: `text_` of a
`BusinessMessageReject`, and the second vectors of the four list messages, whose native
entries refer to the entries of the first vector. These references are `Encodeable.refs`.

## Main results

* `Memory.read_eq`: an object reads the text that it owns, and through each reference that
  it holds whatever that reference resolves to.
* `Encodeable.refs_ofValue`: where the references of a new wrapper point to.
-/

namespace RoqPython.Fix

open Region (View Store)

variable {X : Foreign} {V W : Type}

/-! ### References that a wrapper holds -/

/-- The text of an entry of `SecurityList`. -/
def Native.SecListGrp.views (value : Native.SecListGrp V) : List V :=
  [value.symbol, value.securityExchange, value.tradingSessionId]

/-- The text of an entry of `MarketDataRequest`. -/
def Native.InstrmtMDReq.views (value : Native.InstrmtMDReq V) : List V :=
  [value.symbol, value.securityExchange]

/-- The text of an entry of `MarketDataSnapshotFullRefresh`. -/
def Native.MDFull.views (value : Native.MDFull V) : List V :=
  [value.tradingSessionId, value.expireTime, value.orderId]

/-- The text of an entry of `MarketDataIncrementalRefresh`. -/
def Native.MDInc.views (value : Native.MDInc V) : List V :=
  [value.symbol, value.securityExchange, value.tradingSessionId, value.expireTime,
   value.orderId, value.text]

/-- The text of a native message that its wrapper holds by reference. -/
def Native.Message.borrowed : Native.Message X V → List V
  | .businessMessageReject value => [value.text]
  | .securityList value => value.noRelatedSym.flatMap (·.views)
  | .marketDataRequest value => value.noRelatedSym.flatMap (·.views)
  | .marketDataSnapshotFullRefresh value => value.noMdEntries.flatMap (·.views)
  | .marketDataIncrementalRefresh value => value.noMdEntries.flatMap (·.views)
  | _ => []

/-- The references that a wrapper holds. -/
def Encodeable.refs : Encodeable V → List V
  | .businessMessageReject self => [self.text]
  | .securityList self => self.noRelatedSym2.flatMap (·.views)
  | .marketDataRequest self => self.noRelatedSym2.flatMap (·.views)
  | .marketDataSnapshotFullRefresh self => self.noMdEntries2.flatMap (·.views)
  | .marketDataIncrementalRefresh self => self.noMdEntries2.flatMap (·.views)
  | _ => []

/-! ### Changes of references -/

/-- Changes that agree on the text of the entry change it alike. -/
theorem Native.SecListGrp.map_congr {f g : V → W} (value : Native.SecListGrp V)
    (h : ∀ v ∈ value.views, f v = g v) : f <$> value = g <$> value := by
  obtain ⟨⟩ := value
  simp_all [views, Functor.map, map]

/-- Changes that agree on the text of the entry change it alike. -/
theorem Native.InstrmtMDReq.map_congr {f g : V → W} (value : Native.InstrmtMDReq V)
    (h : ∀ v ∈ value.views, f v = g v) : f <$> value = g <$> value := by
  obtain ⟨⟩ := value
  simp_all [views, Functor.map, map]

/-- Changes that agree on the text of the entry change it alike. -/
theorem Native.MDFull.map_congr {f g : V → W} (value : Native.MDFull V)
    (h : ∀ v ∈ value.views, f v = g v) : f <$> value = g <$> value := by
  obtain ⟨⟩ := value
  simp_all [views, Functor.map, map]

/-- Changes that agree on the text of the entry change it alike. -/
theorem Native.MDInc.map_congr {f g : V → W} (value : Native.MDInc V)
    (h : ∀ v ∈ value.views, f v = g v) : f <$> value = g <$> value := by
  obtain ⟨⟩ := value
  simp_all [views, Functor.map, map]

section Entries

variable {ν ν' : Type} (views : ν → List V) (views' : ν' → List W) {f g : V → W}

/-- The text of entries changes with the text of each entry. -/
theorem flatMap_views_map {map : ν → ν'} (h : ∀ e, views' (map e) = (views e).map f)
    (entries : List ν) : (entries.map map).flatMap views' = (entries.flatMap views).map f := by
  rw [List.flatMap_map, List.map_flatMap]
  exact List.flatMap_congr fun e _ => h e

/-- Changes that agree on the text of the entries change the entries alike. -/
theorem map_congr_of_views {map₁ map₂ : ν → ν'}
    (h : ∀ e, (∀ v ∈ views e, f v = g v) → map₁ e = map₂ e) {entries : List ν}
    (hviews : ∀ v ∈ entries.flatMap views, f v = g v) :
    entries.map map₁ = entries.map map₂ := by
  refine List.map_congr_left ?_
  intro e he
  refine h e ?_
  intro v hv
  exact hviews v (List.mem_flatMap.mpr ⟨e, he, hv⟩)

end Entries

/-- What a message holds by reference changes with the references. -/
theorem Native.Message.borrowed_map (f : V → W) (message : Native.Message X V) :
    (f <$> message).borrowed = message.borrowed.map f := by
  cases message with
  | securityList value =>
      refine flatMap_views_map Native.SecListGrp.views Native.SecListGrp.views
        ?_ value.noRelatedSym
      intro e
      rfl
  | marketDataRequest value =>
      refine flatMap_views_map Native.InstrmtMDReq.views Native.InstrmtMDReq.views
        ?_ value.noRelatedSym
      intro e
      rfl
  | marketDataSnapshotFullRefresh value =>
      refine flatMap_views_map Native.MDFull.views Native.MDFull.views ?_ value.noMdEntries
      intro e
      rfl
  | marketDataIncrementalRefresh value =>
      refine flatMap_views_map Native.MDInc.views Native.MDInc.views ?_ value.noMdEntries
      intro e
      rfl
  | _ => rfl

namespace Encodeable

/-- The native message refers through the references that the wrapper holds. -/
theorem borrowed_toValue (view : Member → Bytes → V) (self : Encodeable V) :
    (self.toValue X view).borrowed = self.refs := by
  cases self <;> rfl

/-- The references that a wrapper holds change one by one. -/
theorem refs_map (f : V → W) (self : Encodeable V) : (self.map f).refs = self.refs.map f := by
  cases self with
  | securityList self =>
      refine flatMap_views_map Native.SecListGrp.views Native.SecListGrp.views
        ?_ self.noRelatedSym2
      intro e
      rfl
  | marketDataRequest self =>
      refine flatMap_views_map Native.InstrmtMDReq.views Native.InstrmtMDReq.views
        ?_ self.noRelatedSym2
      intro e
      rfl
  | marketDataSnapshotFullRefresh self =>
      refine flatMap_views_map Native.MDFull.views Native.MDFull.views ?_ self.noMdEntries2
      intro e
      rfl
  | marketDataIncrementalRefresh self =>
      refine flatMap_views_map Native.MDInc.views Native.MDInc.views ?_ self.noMdEntries2
      intro e
      rfl
  | _ => rfl

/-- A change of references is a change of those that the wrapper holds. -/
theorem map_congr {f g : V → W} {self : Encodeable V} (h : ∀ v ∈ self.refs, f v = g v) :
    self.map f = self.map g := by
  cases self with
  | businessMessageReject self =>
      have htext : f self.text = g self.text := h _ (List.mem_singleton_self _)
      simp [map, BusinessMessageReject.map, htext]
  | securityList self =>
      have hentries : self.noRelatedSym2.map (f <$> ·) = self.noRelatedSym2.map (g <$> ·) :=
        map_congr_of_views Native.SecListGrp.views (Native.SecListGrp.map_congr · ·) h
      simp only [map, SecurityList.map, hentries]
  | marketDataRequest self =>
      have hentries : self.noRelatedSym2.map (f <$> ·) = self.noRelatedSym2.map (g <$> ·) :=
        map_congr_of_views Native.InstrmtMDReq.views (Native.InstrmtMDReq.map_congr · ·) h
      simp only [map, MarketDataRequest.map, hentries]
  | marketDataSnapshotFullRefresh self =>
      have hentries : self.noMdEntries2.map (f <$> ·) = self.noMdEntries2.map (g <$> ·) :=
        map_congr_of_views Native.MDFull.views (Native.MDFull.map_congr · ·) h
      simp only [map, MarketDataSnapshotFullRefresh.map, hentries]
  | marketDataIncrementalRefresh self =>
      have hentries : self.noMdEntries2.map (f <$> ·) = self.noMdEntries2.map (g <$> ·) :=
        map_congr_of_views Native.MDInc.views (Native.MDInc.map_congr · ·) h
      simp only [map, MarketDataIncrementalRefresh.map, hentries]
  | _ => rfl

end Encodeable

/-! ### The references of a new wrapper -/

section Entries

variable {α ε ν : Type} (views : ν → List V)

/-- The native entries of an object refer to its own entries. -/
theorem views_create2 {vector : String} {view : Member → Bytes → V}
    {texts : ε → List (String × Bytes)} {toValue : (String → Bytes → V) → ε → ν}
    (h : ∀ v e, views (toValue v e) = (texts e).map fun t => v t.1 t.2) (entries : List ε) :
    (create2 vector view toValue entries).flatMap views =
      (items vector texts entries).map fun p => view p.1 p.2 := by
  rw [create2, items, List.flatMap_map, List.map_flatMap]
  refine List.flatMap_congr ?_
  intro p _
  rw [h, List.map_map]
  rfl

/-- The entries of an object own copies of the text that they were made from. -/
theorem snd_items_create {vector : String} {string : V → Bytes}
    (texts : ε → List (String × Bytes)) {ofValue : ν → ε}
    (h : ∀ x, (texts (ofValue x)).map Prod.snd = (views x).map string) (xs : List ν) :
    (items vector texts (create ofValue xs)).map Prod.snd =
      (xs.flatMap views).map string := by
  have hfst : (create ofValue xs).zipIdx.map Prod.fst = xs.map ofValue :=
    List.zipIdx_map_fst _ _
  calc (items vector texts (create ofValue xs)).map Prod.snd
      = ((create ofValue xs).zipIdx.map Prod.fst).flatMap fun e => (texts e).map Prod.snd := by
        rw [items, List.map_flatMap, List.flatMap_map]
        refine List.flatMap_congr ?_
        intro p _
        rw [List.map_map]
        rfl
    _ = (xs.flatMap views).map string := by
        rw [hfst, List.flatMap_map, List.map_flatMap]
        exact List.flatMap_congr fun x _ => h x

end Entries

/-- **The references of a new wrapper.** Either they are the references that the native
message came with, or they point to members of the wrapper itself that own copies. -/
theorem Encodeable.refs_ofValue (string : V → Bytes) (view : Member → Bytes → V)
    (message : Native.Message X V) :
    (ofValue string view message).refs = message.borrowed ∨
      ∃ ps ⊆ (ofValue string view message).texts,
        (ofValue string view message).refs = ps.map (fun p => view p.1 p.2) ∧
          ps.map Prod.snd = message.borrowed.map string := by
  cases message with
  | securityList value =>
      refine .inr ⟨items "no_related_sym_" SecListGrp.texts
        (create (SecListGrp.ofValue string) value.noRelatedSym), ?_, ?_, ?_⟩
      · exact List.subset_append_right _ _
      · exact views_create2 Native.SecListGrp.views (fun _ _ => rfl) _
      · exact snd_items_create Native.SecListGrp.views SecListGrp.texts
          (fun _ => rfl) value.noRelatedSym
  | marketDataRequest value =>
      refine .inr ⟨items "no_related_sym_" InstrmtMDReq.texts
        (create (InstrmtMDReq.ofValue string) value.noRelatedSym), ?_, ?_, ?_⟩
      · exact List.subset_append_right _ _
      · exact views_create2 Native.InstrmtMDReq.views (fun _ _ => rfl) _
      · exact snd_items_create Native.InstrmtMDReq.views InstrmtMDReq.texts
          (fun _ => rfl) value.noRelatedSym
  | marketDataSnapshotFullRefresh value =>
      refine .inr ⟨items "no_md_entries_" MDFull.texts
        (create (MDFull.ofValue string) value.noMdEntries), ?_, ?_, ?_⟩
      · exact List.subset_append_right _ _
      · exact views_create2 Native.MDFull.views (fun _ _ => rfl) _
      · exact snd_items_create Native.MDFull.views MDFull.texts (fun _ => rfl) value.noMdEntries
  | marketDataIncrementalRefresh value =>
      refine .inr ⟨items "no_md_entries_" MDInc.texts
        (create (MDInc.ofValue string) value.noMdEntries), ?_, ?_, ?_⟩
      · exact List.subset_append_right _ _
      · exact views_create2 Native.MDInc.views (fun _ _ => rfl) _
      · exact snd_items_create Native.MDInc.views MDInc.texts (fun _ => rfl) value.noMdEntries
  -- The other wrappers hold no references.
  | _ => exact .inl rfl

/-! ### Places and objects -/

/-- The names of regions: a buffer, or a text member of an object. -/
inductive Place
  | buffer (id : ℕ)
  | member (object : ℕ) (member : Member)
deriving DecidableEq

/-- A `std::string_view`. -/
abbrev StringView := View Place

/-- An object: the wrapper of a header, or of a message of any type. -/
inductive Object (V : Type)
  | header (self : Header)
  | message (self : Encodeable V)

/-- What an object converts to. -/
inductive Native.Value (X : Foreign) (S : Type)
  | header (value : Native.Header S)
  | message (value : Native.Message X S)
deriving Functor

/-- The text of a native value that its wrapper holds by reference. -/
def Native.Value.borrowed : Native.Value X V → List V
  | .header _ => []
  | .message value => value.borrowed

namespace Object

/-- The text that the members of an object own, by their paths. -/
def texts : Object V → List (Member × Bytes)
  | .header self => self.texts
  | .message self => self.texts

/-- The references that an object holds. -/
def refs : Object V → List V
  | .header _ => []
  | .message self => self.refs

/-- Change the references that an object holds. -/
def map (f : V → W) : Object V → Object W
  | .header self => .header self
  | .message self => .message (self.map f)

/-- `static_cast<value_type>(*this)`. -/
def toValue (X : Foreign) (view : Member → Bytes → V) : Object V → Native.Value X V
  | .header self => .header (self.toValue X view)
  | .message self => .message (self.toValue X view)

theorem map_toValue (f : V → W) (view : Member → Bytes → V) (self : Object V) :
    f <$> self.toValue X view = (self.map f).toValue X fun m text => f (view m text) := by
  cases self with
  | header self => rfl
  | message self => exact congrArg Native.Value.message (self.map_toValue f view)

theorem texts_map (f : V → W) (self : Object V) : (self.map f).texts = self.texts := by
  cases self with
  | header self => rfl
  | message self => exact self.texts_map f

theorem toValue_congr {v₁ v₂ : Member → Bytes → V} {self : Object V}
    (h : ∀ p ∈ self.texts, v₁ p.1 p.2 = v₂ p.1 p.2) :
    self.toValue X v₁ = self.toValue X v₂ := by
  cases self with
  | header self => simp_all [texts, toValue, Header.texts, Header.toValue]
  | message self => exact congrArg Native.Value.message (self.toValue_congr h)

theorem texts_nodup (self : Object V) : (self.texts.map Prod.fst).Nodup := by
  cases self with
  | header self => simp [texts, Header.texts]
  | message self => exact self.texts_nodup

theorem map_congr {f g : V → W} {self : Object V} (h : ∀ v ∈ self.refs, f v = g v) :
    self.map f = self.map g := by
  cases self with
  | header self => rfl
  | message self => exact congrArg Object.message (self.map_congr h)

theorem refs_map (f : V → W) (self : Object V) : (self.map f).refs = self.refs.map f := by
  cases self with
  | header self => rfl
  | message self => exact self.refs_map f

theorem borrowed_toValue (view : Member → Bytes → V) (self : Object V) :
    (self.toValue X view).borrowed = self.refs := by
  cases self with
  | header self => rfl
  | message self => exact self.borrowed_toValue view

end Object

/-! ### Memory -/

/-- The buffers and the objects that are alive. Objects are numbered in the order in which
they are created, and a number is not used again. -/
structure Memory where
  buffers : ℕ → Option Bytes
  objects : ℕ → Option (Object StringView)
  next : ℕ
  fresh : ∀ id, next ≤ id → objects id = none

/-- Nothing is alive. -/
instance : Inhabited Memory := ⟨⟨fun _ => none, fun _ => none, 0, fun _ _ => rfl⟩⟩

namespace Memory

/-- The memory as a store of regions. -/
def store (self : Memory) : Store Place UInt8
  | .buffer id => self.buffers id
  | .member object member => (self.objects object).bind (·.texts.lookup member)

/-- `std::string{view}`: copy the text out of a reference. -/
def string (self : Memory) (view : StringView) : Bytes := (view.resolve self.store).getD []

/-- `std::string_view{string}`: refer to a text member of the object `id`. -/
def view (id : ℕ) (member : Member) (text : Bytes) : StringView :=
  .whole (.member id member) text.length

/-- Create an object under the next number. -/
def create (self : Memory) (object : Object StringView) : Memory where
  buffers := self.buffers
  objects := Function.update self.objects self.next (some object)
  next := self.next + 1
  fresh := by
    intro id hid
    have hne : id ≠ self.next := by omega
    rw [Function.update_of_ne hne]
    exact self.fresh id (by omega)

/-- Destroy an object. -/
def destroy (self : Memory) (id : ℕ) : Memory where
  buffers := self.buffers
  objects := Function.update self.objects id none
  next := self.next
  fresh := by
    intro id' hid
    by_cases hne : id' = id
    · rw [hne, Function.update_self]
    · rw [Function.update_of_ne hne]
      exact self.fresh id' hid

/-- Write or free (`none`) a buffer. -/
def write (self : Memory) (id : ℕ) (content : Option Bytes) : Memory :=
  { self with buffers := Function.update self.buffers id content }

variable {memory : Memory} {id : ℕ} {object object' : Object StringView}

/-- A live object has a number that was given out. -/
theorem lt_next (h : memory.objects id = some object) : id < memory.next := by
  by_contra hid
  rw [memory.fresh id (by omega)] at h
  cases h

/-- A new object is there. -/
theorem create_self : (memory.create object).objects memory.next = some object :=
  Function.update_self ..

/-- Creating an object leaves the live objects alone. -/
theorem create_of_live (h : memory.objects id = some object) :
    (memory.create object').objects id = some object := by
  have hne : id ≠ memory.next := Nat.ne_of_lt (lt_next h)
  exact (Function.update_of_ne hne ..).trans h

/-- A destroyed object is gone. -/
theorem destroy_self : (memory.destroy id).objects id = none := Function.update_self ..

/-- Destroying an object leaves the others alone. -/
theorem destroy_of_ne {id' : ℕ} (h : id ≠ id') :
    (memory.destroy id').objects id = memory.objects id := Function.update_of_ne h ..

/-- Convert the object `id` to its native type, and read every text field through its
reference: `none` where that reference dangles. -/
def read (X : Foreign) (self : Memory) (id : ℕ) : Option (Native.Value X (Option Bytes)) :=
  (self.objects id).map fun object =>
    (fun v : StringView => v.resolve self.store) <$> object.toValue X (view id)

/-- What an object reads: its own text, and what the references that it holds resolve to. -/
def reading (X : Foreign) (self : Memory) (object : Object StringView) :
    Native.Value X (Option Bytes) :=
  (object.map fun v => v.resolve self.store).toValue X fun _ text => some text

/-- A reference to a member of a live object resolves to the text that the member owns. -/
theorem resolve_view {self : Memory} {id : ℕ} {object : Object StringView}
    (hobject : self.objects id = some object) {p : Member × Bytes} (hp : p ∈ object.texts) :
    (view id p.1 p.2).resolve self.store = some p.2 := by
  refine View.resolve_whole ?_
  rw [store, hobject, Option.bind_some]
  exact Region.lookup_of_mem object.texts_nodup hp

/-- **Reading.** Own text is always read as it is. -/
theorem read_eq {self : Memory} {id : ℕ} {object : Object StringView}
    (hobject : self.objects id = some object) :
    self.read X id = some (self.reading X object) := by
  rw [read, hobject, Option.map_some, Object.map_toValue, reading]
  refine congrArg some (Object.toValue_congr ?_)
  intro p hp
  rw [Object.texts_map] at hp
  exact resolve_view hobject hp

/-- An object reads the same in memories in which its references resolve to the same. -/
theorem reading_congr {m₁ m₂ : Memory} {object : Object StringView}
    (h : ∀ v ∈ object.refs, v.resolve m₁.store = v.resolve m₂.store) :
    m₁.reading X object = m₂.reading X object := by
  rw [reading, reading, Object.map_congr h]

/-- An object reads the same only in such memories. -/
theorem resolve_of_reading_eq {m₁ m₂ : Memory} {object : Object StringView}
    (h : m₁.reading X object = m₂.reading X object) {v : StringView} (hv : v ∈ object.refs) :
    v.resolve m₁.store = v.resolve m₂.store := by
  have hborrowed := congrArg Native.Value.borrowed h
  rw [reading, reading, Object.borrowed_toValue, Object.borrowed_toValue, Object.refs_map,
    Object.refs_map] at hborrowed
  exact List.map_inj_left.mp hborrowed v hv

end Memory

end RoqPython.Fix
