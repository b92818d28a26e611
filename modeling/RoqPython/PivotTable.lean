import RoqPython.Callbacks
import RoqPython.Lib.Groups
import RoqPython.Lib.Rounding

/-!
# The Pivot Table Sample

`samples/pivot_table.py` replays an event log and counts the updates of the best prices, by
symbol and by five minutes of the time at which they were received. It prints the counts of
five minutes when it sees the first update that is not within them.

The time is divided as a double, and the fraction is cut off.

## Main results

* `bucketOf_timedelta`: the floating point arithmetic is exact for every time there is.
* `PivotTable.main_tables`: what was counted, and that each table is printed when it is
  complete.
-/

namespace RoqPython.Client

open Raising

/-! ### Times -/

/-- `MessageInfo`. The members that nothing here looks at are one member of type `R`. -/
structure MessageInfo (R : Type) where
  receiveTimeUtc : Int64
  others : R

/-- `std::chrono::nanoseconds` as a `datetime.timedelta`, which has whole microseconds. -/
def timedelta (nanoseconds : Int64) : ℤ := nanoseconds.toInt.tdiv 1000

/-- `timedelta.total_seconds`: the quotient of two integers as a double. -/
def totalSeconds (timestamp : ℤ) : ℚ := Rounding.round 53 (timestamp / 1000000)

/-- `int`: the fraction is cut off. -/
def int (x : ℚ) : ℤ := if 0 ≤ x then ⌊x⌋ else ⌈x⌉

/-- `int(timestamp.total_seconds() / 300) * 300`. -/
def bucketOf (timestamp : ℤ) : ℤ := int (Rounding.round 53 (totalSeconds timestamp / 300)) * 300

theorem int_neg (x : ℚ) : int (-x) = -int x := by
  rcases lt_trichotomy x 0 with h | rfl | h
  · rw [int, int, if_pos (by linarith), if_neg (by linarith), Int.floor_neg]
  · rfl
  · rw [int, int, if_neg (by linarith), if_pos h.le, Int.ceil_neg]

theorem bucketOf_neg (timestamp : ℤ) : bucketOf (-timestamp) = -bucketOf timestamp := by
  have hseconds : totalSeconds (-timestamp) = -totalSeconds timestamp := by
    rw [totalSeconds, totalSeconds, Int.cast_neg, neg_div, Rounding.round_neg]
  rw [bucketOf, bucketOf, hseconds, neg_div, Rounding.round_neg, int_neg, neg_mul]

/-- Until the year 2262 the seconds of a time are as many as its double says: half a unit in
the last place is less than a microsecond. -/
theorem floor_totalSeconds {timestamp : ℤ} (hpos : 0 < timestamp)
    (hlt : timestamp < 2 ^ 34 * 1000000) : ⌊totalSeconds timestamp⌋ = timestamp / 1000000 := by
  have hfloor : ⌊(timestamp : ℚ) / 1000000⌋ = timestamp / 1000000 := by
    exact_mod_cast Rat.floor_intCast_div_natCast timestamp 1000000
  have hq : 0 < (timestamp : ℚ) / 1000000 := by positivity
  have hq34 : (timestamp : ℚ) / 1000000 < 2 ^ 34 := by
    rw [div_lt_iff₀ (by norm_num)]
    exact_mod_cast hlt
  have hulp : Rounding.ulp 53 ((timestamp : ℚ) / 1000000) ≤ 1 / 2 ^ 19 := by
    refine (Rounding.ulp_le hq hq34).trans (le_of_eq ?_)
    norm_num
  have hnext : (timestamp : ℚ) / 1000000 + 1 / 1000000 ≤ (timestamp / 1000000 : ℤ) + 1 := by
    rw [← add_div, div_le_iff₀ (by norm_num)]
    have hle : timestamp + 1 ≤ (timestamp / 1000000 + 1) * 1000000 := by omega
    exact_mod_cast hle
  rw [totalSeconds, Rounding.floor_round hq (hq34.trans (by norm_num)), hfloor]
  rw [hfloor]
  norm_num at hulp
  linarith

/-- **Positive times.** -/
theorem bucketOf_of_pos {timestamp : ℤ} (hpos : 0 < timestamp)
    (hlt : timestamp < 2 ^ 34 * 1000000) : bucketOf timestamp = timestamp / 300000000 * 300 := by
  have hq : 0 < (timestamp : ℚ) / 1000000 := by positivity
  have hseconds : 0 < totalSeconds timestamp := Rounding.round_pos (by norm_num) hq
  have hfloor := floor_totalSeconds hpos hlt
  have hbound : totalSeconds timestamp < 2 ^ 53 := by
    have hle : timestamp / 1000000 + 1 ≤ 2 ^ 53 := by omega
    have hcast : ((timestamp / 1000000 : ℤ) : ℚ) + 1 ≤ 2 ^ 53 := by exact_mod_cast hle
    have hfraction := Int.lt_floor_add_one (totalSeconds timestamp)
    rw [hfloor] at hfraction
    exact lt_of_lt_of_le hfraction hcast
  have hquotient : ⌊Rounding.round 53 (totalSeconds timestamp / (300 : ℕ))⌋ =
      ⌊totalSeconds timestamp⌋ / (300 : ℕ) := by
    have hdouble : Rounding.Representable 53 (totalSeconds timestamp) :=
      Rounding.representable_round (by norm_num) hq
    rw [Rounding.floor_round_div hdouble hseconds hbound (by norm_num), Int.floor_div_natCast]
  have hnonneg : 0 ≤ Rounding.round 53 (totalSeconds timestamp / 300) :=
    (Rounding.round_pos (by norm_num) (by positivity)).le
  rw [bucketOf, int, if_pos hnonneg]
  rw [hfloor, Nat.cast_ofNat, Nat.cast_ofNat] at hquotient
  rw [hquotient]
  omega

/-- The floating point arithmetic is exact: a time is divided by five minutes, and the
fraction is cut off. -/
theorem bucketOf_timedelta (nanoseconds : Int64) :
    bucketOf (timedelta nanoseconds) = nanoseconds.toInt.tdiv 300000000000 * 300 := by
  have hpositive {n : ℤ} (hn : 0 ≤ n) (hlt : n ≤ 2 ^ 63) :
      bucketOf (n.tdiv 1000) = n.tdiv 300000000000 * 300 := by
    rw [Int.tdiv_eq_ediv_of_nonneg hn, Int.tdiv_eq_ediv_of_nonneg hn]
    rcases (Int.ediv_nonneg hn (show (0 : ℤ) ≤ 1000 by norm_num)).lt_or_eq with hpos | hzero
    · rw [bucketOf_of_pos hpos (by omega)]
      omega
    · have hbucket : bucketOf 0 = 0 := by
        have hneg := bucketOf_neg 0
        rw [neg_zero] at hneg
        omega
      rw [← hzero, hbucket]
      omega
  have hge := nanoseconds.le_toInt
  have hlt := nanoseconds.toInt_lt
  rw [timedelta]
  rcases le_total 0 nanoseconds.toInt with hnonneg | hnonpos
  · exact hpositive hnonneg (by omega)
  · have hneg := hpositive (n := -nanoseconds.toInt) (by omega) (by omega)
    rw [Int.neg_tdiv, Int.neg_tdiv, bucketOf_neg] at hneg
    omega

/-- **Five minutes.** Whatever the time, its bucket is a multiple of five minutes, and the time
is within the five minutes that begin there; before the epoch, within those that end there. -/
theorem mem_bucket (nanoseconds : Int64) :
    let bucket := bucketOf (timedelta nanoseconds)
    300 ∣ bucket ∧
      (0 ≤ nanoseconds.toInt → bucket * 1000000000 ≤ nanoseconds.toInt ∧
        nanoseconds.toInt < (bucket + 300) * 1000000000) ∧
      (nanoseconds.toInt ≤ 0 → (bucket - 300) * 1000000000 < nanoseconds.toInt ∧
        nanoseconds.toInt ≤ bucket * 1000000000) := by
  dsimp only
  rw [bucketOf_timedelta]
  refine ⟨Int.dvd_mul_left _ _, fun hnonneg => ?_, fun hnonpos => ?_⟩
  · rw [Int.tdiv_eq_ediv_of_nonneg hnonneg]
    omega
  · have hneg : nanoseconds.toInt.tdiv 300000000000 = -(-nanoseconds.toInt / 300000000000) := by
      rw [← Int.tdiv_eq_ediv_of_nonneg (by omega), Int.neg_tdiv, neg_neg]
    rw [hneg]
    omega

example : bucketOf (timedelta 1700000000123456789) = 1699999800 := by decide +kernel

/-- Times in order have buckets in order. -/
theorem bucketOf_mono {t t' : Int64} (h : t ≤ t') :
    bucketOf (timedelta t) ≤ bucketOf (timedelta t') := by
  rw [bucketOf_timedelta, bucketOf_timedelta]
  have hle := Int.tdiv_le_tdiv (show (0 : ℤ) < 300000000000 by norm_num)
    (Int64.le_iff_toInt_le.mp h)
  omega

/-! ### The callback -/

/-- The value of an event. -/
inductive TopOfBookValue
  | topOfBook (symbol : String)
  | other (type : EventType) (h : type ≠ .topOfBook)

/-- The type of the value. -/
def TopOfBookValue.type : TopOfBookValue → EventType
  | .topOfBook _ => .topOfBook
  | .other type _ => type

/-- The counts by symbol. -/
abbrev Table := String → Option ℕ

/-- `LAST_BUCKET` and `TABLE`, and the tables that were printed when a bucket was over. -/
structure PivotTable where
  lastBucket : ℤ
  table : ℤ → Option Table
  printed : List (Option Table)

namespace PivotTable

/-- What goes wrong in an invocation of the callback: the table cannot be printed, or the data
frame of all tables cannot, or the symbol is not text. -/
structure Faults where
  table : Bool
  frame : Bool
  symbol : Bool

/-- `LAST_BUCKET = 0` and `TABLE = {}`. -/
def new : PivotTable := ⟨0, fun _ => none, []⟩

/-- `TABLE[bucket]`, or a table without symbols. -/
def tableOf (self : PivotTable) (bucket : ℤ) : Table :=
  (self.table bucket).getD fun _ => none

/-- `print(TABLE.get(LAST_BUCKET))` and `LAST_BUCKET = bucket`. -/
def close (self : PivotTable) (bucket : ℤ) : PivotTable :=
  { self with printed := self.printed ++ [self.table self.lastBucket], lastBucket := bucket }

/-- `TABLE[bucket] = {}`, unless there is a table. -/
def create (self : PivotTable) (bucket : ℤ) : PivotTable :=
  { self with table := Function.update self.table bucket (some (self.tableOf bucket)) }

/-- `table[symbol] = table.get(symbol, 0) + 1`. -/
def increment (self : PivotTable) (bucket : ℤ) (symbol : String) : PivotTable :=
  let table := self.tableOf bucket
  let table := Function.update table symbol (some ((table symbol).getD 0 + 1))
  { self with table := Function.update self.table bucket (some table) }

/-- `callback`. For other types `typedispatch` returns its first argument. -/
def callback {R : Type} (self : PivotTable) (messageInfo : MessageInfo R)
    (value : TopOfBookValue) (faults : Faults) : PivotTable × Option Exception :=
  match value with
  | .other _ _ => (self, none)
  | .topOfBook symbol =>
      let bucket := bucketOf (timedelta messageInfo.receiveTimeUtc)
      andThen
        (if bucket ≠ self.lastBucket then
          andThen (self, raise faults.table) fun self => (self.close bucket, raise faults.frame)
        else (self, none)) fun self =>
      andThen (self.create bucket, raise faults.symbol) fun self =>
      (self.increment bucket symbol, none)

/-- `main`: the loop over the event log. -/
def main {R : Type} (log : List (List (Fed (MessageInfo R) TopOfBookValue Faults))) :
    PivotTable × Option Exception :=
  run (run (drive TopOfBookValue.type EventLogReader.path callback)) new log

/-! ### Operations -/

/-- What an update asks for. -/
inductive Operation
  | close (bucket : ℤ)
  | create (bucket : ℤ)
  | count (bucket : ℤ) (symbol : String)
deriving DecidableEq

/-- The operations. A bucket is closed when another one begins. -/
def operate (self : PivotTable) : Operation → PivotTable
  | .close bucket => if bucket ≠ self.lastBucket then self.close bucket else self
  | .create bucket => self.create bucket
  | .count bucket symbol => self.increment bucket symbol

/-- What is counted: the bucket and the symbol of an update. -/
def entry (top : Int64 × String) : ℤ × String := (bucketOf (timedelta top.1), top.2)

/-- What an update asks for, in order. -/
def asks (entry : ℤ × String) : List Operation :=
  [.close entry.1, .create entry.1, .count entry.1 entry.2]

/-- The update of a value with its time. -/
def top? {R : Type} (messageInfo : MessageInfo R) : TopOfBookValue → Option (Int64 × String)
  | .topOfBook symbol => some (messageInfo.receiveTimeUtc, symbol)
  | .other _ _ => none

/-- The updates that are fed, with their times. -/
def tops {R : Type} (fed : List (Fed (MessageInfo R) TopOfBookValue Faults)) :
    List (Int64 × String) :=
  fed.filterMap fun
    | .event messageInfo value _ => top? messageInfo value
    | .raise => none

/-- An update is counted, unless something raises before. Other values change nothing. -/
theorem performs_callback {R : Type} (self : PivotTable) (messageInfo : MessageInfo R)
    (value : TopOfBookValue) (faults : Faults) :
    Performs operate self ((top? messageInfo value).elim [] fun top => asks (entry top))
      (callback self messageInfo value faults) := by
  cases value with
  | other type htype => exact Performs.nothing _
  | topOfBook symbol =>
      have hclose (bucket : ℤ) : Performs operate self [.close bucket]
          (if bucket ≠ self.lastBucket then
            andThen (self, raise faults.table) fun self =>
              (self.close bucket, raise faults.frame)
          else (self, none)) := by
        by_cases hbucket : bucket ≠ self.lastBucket
        · rw [if_pos hbucket]
          cases faults.table with
          | true => exact Performs.raised _ _
          | false => exact Performs.single (if_pos hbucket).symm
        · rw [if_neg hbucket]
          exact Performs.single (if_neg hbucket).symm
      refine (hclose _).andThen fun self => ?_
      exact Performs.cons rfl fun self => Performs.single rfl

/-! ### Counts -/

/-- The count of a symbol in a bucket. -/
def countOf (self : PivotTable) (bucket : ℤ) (symbol : String) : ℕ :=
  (self.tableOf bucket symbol).getD 0

@[simp]
theorem tableOf_create (self : PivotTable) (bucket b : ℤ) :
    (self.create bucket).tableOf b = self.tableOf b := by
  have htable : (self.create bucket).table =
      Function.update self.table bucket (some (self.tableOf bucket)) := rfl
  rw [tableOf, htable]
  by_cases hb : b = bucket
  · rw [hb, Function.update_self, Option.getD_some]
  · rw [Function.update_of_ne hb, tableOf]

theorem countOf_increment (self : PivotTable) (bucket b : ℤ) (symbol s : String) :
    (self.increment bucket symbol).countOf b s =
      self.countOf b s + if b = bucket ∧ s = symbol then 1 else 0 := by
  have htable : (self.increment bucket symbol).table = Function.update self.table bucket
      (some (Function.update (self.tableOf bucket) symbol
        (some ((self.tableOf bucket symbol).getD 0 + 1)))) := rfl
  rw [countOf, countOf, tableOf, htable]
  by_cases hb : b = bucket
  · subst hb
    rw [Function.update_self, Option.getD_some]
    by_cases hs : s = symbol
    · subst hs
      rw [Function.update_self, Option.getD_some, if_pos ⟨rfl, rfl⟩]
    · rw [Function.update_of_ne hs, if_neg fun h => hs h.2, Nat.add_zero]
  · rw [Function.update_of_ne hb, if_neg fun h => hb h.1, Nat.add_zero, tableOf]

theorem countOf_operate (self : PivotTable) (operation : Operation) (b : ℤ) (s : String) :
    (operate self operation).countOf b s =
      self.countOf b s + if operation = .count b s then 1 else 0 := by
  cases operation with
  | close bucket =>
      rw [if_neg nofun, operate]
      split <;> rfl
  | create bucket => rw [if_neg nofun, operate, countOf, tableOf_create, countOf, Nat.add_zero]
  | count bucket symbol =>
      rw [operate, countOf_increment]
      simp only [Operation.count.injEq, eq_comm]

/-- A count is the number of operations that count. -/
theorem countOf_foldl (self : PivotTable) (operations : List Operation) (b : ℤ) (s : String) :
    (operations.foldl operate self).countOf b s =
      self.countOf b s + operations.count (.count b s) := by
  induction operations generalizing self with
  | nil => rfl
  | cons operation operations ih =>
      rw [List.foldl_cons, ih, countOf_operate, List.count_cons]
      simp only [beq_iff_eq]
      omega

/-! ### Tables that are printed -/

/-- The tables as a store with groups. -/
def toGroups (self : PivotTable) : Groups.State ℤ (Option Table) :=
  ⟨self.lastBucket, self.table, self.printed⟩

/-- Buckets are groups: an operation goes on to one, or changes the table of one. -/
def Operation.toGroups : Operation → Groups.Operation ℤ (Option Table)
  | .close bucket => .advance bucket
  | .create bucket => .change bucket fun table => some (table.getD fun _ => none)
  | .count bucket symbol => .change bucket fun table =>
      let table := table.getD fun _ => none
      some (Function.update table symbol (some ((table symbol).getD 0 + 1)))

/-- The bucket of an operation. -/
def Operation.bucket : Operation → ℤ
  | .close bucket => bucket
  | .create bucket => bucket
  | .count bucket _ => bucket

/-- The bucket that an operation closes the last one for. -/
def Operation.close? : Operation → Option ℤ
  | .close bucket => some bucket
  | _ => none

theorem step_toGroups (self : PivotTable) (operation : Operation) :
    Groups.step self.toGroups operation.toGroups = (operate self operation).toGroups := by
  cases operation with
  | close bucket =>
      rw [operate, Operation.toGroups, Groups.step]
      by_cases hbucket : bucket ≠ self.lastBucket
      · rw [if_pos hbucket]
        exact if_pos hbucket
      · rw [if_neg hbucket]
        exact if_neg hbucket
  | create bucket => rfl
  | count bucket symbol => rfl

/-- **Complete tables.** When the buckets come in order, the tables that are printed are those
of the buckets that were left, as they are in the end. -/
theorem printed_foldl (self : PivotTable) {operations : List Operation}
    (hsorted : (self.lastBucket :: operations.map Operation.bucket).Pairwise (· ≤ ·)) :
    (operations.foldl operate self).printed = self.printed ++
      (Groups.left self.lastBucket (operations.filterMap Operation.close?)).map
        (operations.foldl operate self).table := by
  have hrun : (operations.map Operation.toGroups).foldl Groups.step self.toGroups =
      (operations.foldl operate self).toGroups := by
    rw [List.foldl_map]
    exact List.foldl_hom toGroups step_toGroups
  have hkey : (operations.map Operation.toGroups).map Groups.Operation.key =
      operations.map Operation.bucket := by
    rw [List.map_map]
    refine List.map_congr_left fun operation _ => ?_
    cases operation <;> rfl
  have hadvance : (operations.map Operation.toGroups).filterMap Groups.Operation.advance? =
      operations.filterMap Operation.close? := by
    rw [List.filterMap_map]
    refine List.filterMap_congr fun operation _ => ?_
    cases operation <;> rfl
  have hgroups : (self.toGroups.last ::
      (operations.map Operation.toGroups).map Groups.Operation.key).Pairwise (· ≤ ·) := by
    rwa [hkey]
  have hreported := Groups.reported_foldl hgroups
  rw [hrun, hadvance] at hreported
  exact hreported

/-! ### The sample -/

/-- **Initial segments.** A part of the operations that updates ask for counts the first of
the updates, and may have closed a bucket for the next one. -/
theorem prefix_asks {entries : List (ℤ × String)} {performed : List Operation}
    (h : performed <+: entries.flatMap asks) :
    ∃ counted next rest, entries = counted ++ next ++ rest ∧ next.length ≤ 1 ∧
      performed.filterMap Operation.close? = (counted ++ next).map Prod.fst ∧
      (∀ b s, performed.count (.count b s) = counted.count (b, s)) ∧
      (performed = entries.flatMap asks → counted = entries) := by
  induction entries generalizing performed with
  | nil =>
      obtain rfl := List.prefix_nil.mp h
      exact ⟨[], [], [], rfl, Nat.zero_le _, rfl, fun _ _ => rfl, fun _ => rfl⟩
  | cons e entries ih =>
      obtain ⟨bucket, symbol⟩ := e
      have hasks : ((bucket, symbol) :: entries).flatMap asks =
          .close bucket :: .create bucket :: .count bucket symbol :: entries.flatMap asks := rfl
      rw [hasks] at h ⊢
      rcases List.prefix_cons_iff.mp h with rfl | ⟨created, rfl, hcreated⟩
      · exact ⟨[], [], _, rfl, Nat.zero_le _, rfl, fun _ _ => rfl, nofun⟩
      -- The update is the next one when it was not counted.
      rcases List.prefix_cons_iff.mp hcreated with rfl | ⟨counted, rfl, hcounted⟩
      · exact ⟨[], [(bucket, symbol)], entries, rfl, Nat.le_refl _, rfl, fun _ _ => rfl, by simp⟩
      rcases List.prefix_cons_iff.mp hcounted with rfl | ⟨rest, rfl, hrest⟩
      · exact ⟨[], [(bucket, symbol)], entries, rfl, Nat.le_refl _, rfl, fun _ _ => rfl, by simp⟩
      obtain ⟨counted, next, later, rfl, hnext, hclose, hcount, hall⟩ := ih hrest
      refine ⟨(bucket, symbol) :: counted, next, later, rfl, hnext, ?_, fun b s => ?_, ?_⟩
      · exact congrArg (List.cons bucket) hclose
      · have hclose : Operation.close bucket ≠ .count b s := nofun
        have hcreate : Operation.create bucket ≠ .count b s := nofun
        rw [List.count_cons_of_ne hclose, List.count_cons_of_ne hcreate, List.count_cons,
          List.count_cons, hcount]
        simp
      · intro heq
        simp only [List.cons.injEq, true_and] at heq
        exact congrArg (List.cons (bucket, symbol)) (hall heq)

/-- The loop performs what the updates ask for. -/
theorem performs_main {R : Type} (log : List (List (Fed (MessageInfo R) TopOfBookValue Faults))) :
    Performs operate new (((tops log.flatten).map entry).flatMap asks) (main log) := by
  have hasks (fed : List (Fed (MessageInfo R) TopOfBookValue Faults)) :
      fed.flatMap (Fed.asks fun messageInfo value =>
        (top? messageInfo value).elim [] fun top => asks (entry top)) =
        ((tops fed).map entry).flatMap asks := by
    induction fed with
    | nil => rfl
    | cons x fed ih =>
        rw [List.flatMap_cons, ih, tops, tops, List.filterMap_cons]
        cases x with
        | raise => rfl
        | event messageInfo value faults => cases value <;> rfl
  rw [← hasks]
  refine performs_run rfl rfl ?_ performs_callback new log
  rintro messageInfo (symbol | ⟨type, htype⟩) hne
  · exact ⟨rfl, rfl⟩
  · exact absurd rfl hne

/-- Times in order, none before the epoch, have buckets in order. -/
theorem pairwise_entries {tops : List (Int64 × String)}
    (h : ((0 : Int64) :: tops.map Prod.fst).Pairwise (· ≤ ·)) :
    ((0 : ℤ) :: (tops.map entry).map Prod.fst).Pairwise (· ≤ ·) := by
  have hzero : bucketOf (timedelta 0) = 0 := by
    rw [bucketOf_timedelta]
    rfl
  have hmap : (0 : ℤ) :: (tops.map entry).map Prod.fst =
      ((0 : Int64) :: tops.map Prod.fst).map fun t => bucketOf (timedelta t) := by
    rw [List.map_cons, hzero, List.map_map, List.map_map]
    rfl
  rw [hmap]
  exact h.map _ fun _ _ => bucketOf_mono

/-- The operations of entries in order are in order. -/
theorem pairwise_asks {entries : List (ℤ × String)} {last : ℤ}
    (h : (last :: entries.map Prod.fst).Pairwise (· ≤ ·)) :
    (last :: (entries.flatMap asks).map Operation.bucket).Pairwise (· ≤ ·) := by
  have hbuckets : (entries.flatMap asks).map Operation.bucket =
      (entries.map Prod.fst).flatMap fun bucket => [bucket, bucket, bucket] := by
    rw [List.map_flatMap, List.flatMap_map]
    rfl
  obtain ⟨hlast, hentries⟩ := List.pairwise_cons.mp h
  rw [hbuckets, List.pairwise_cons, List.pairwise_flatMap]
  refine ⟨?_, ?_, hentries.imp ?_⟩
  · intro b hb
    obtain ⟨bucket, hbucket, hmem⟩ := List.mem_flatMap.mp hb
    obtain rfl : b = bucket := by simpa using hmem
    exact hlast b hbucket
  · intro bucket _
    simp
  · intro b b' hle x hx y hy
    obtain rfl : x = b := by simpa using hx
    obtain rfl : y = b' := by simpa using hy
    exact hle

/-- No entry that is not counted is in a bucket that was left. -/
theorem count_eq_of_mem_left {counted next rest : List (ℤ × String)}
    (hsorted : ((0 : ℤ) :: (counted ++ next ++ rest).map Prod.fst).Pairwise (· ≤ ·))
    (hnext : next.length ≤ 1) {bucket : ℤ}
    (hbucket : bucket ∈ Groups.left 0 ((counted ++ next).map Prod.fst)) (symbol : String) :
    counted.count (bucket, symbol) = (counted ++ next ++ rest).count (bucket, symbol) := by
  have hclosed : ((0 : ℤ) :: (counted ++ next).map Prod.fst).Pairwise (· ≤ ·) := by
    rw [List.map_append, ← List.cons_append] at hsorted
    exact hsorted.sublist (List.sublist_append_left _ _)
  have hlater : ∀ e ∈ next ++ rest, bucket < e.1 := by
    intro e he
    refine Groups.lt_of_mem_left (fun key hkey => ?_) hclosed hbucket
    rcases List.mem_append.mp he with he | he
    · -- The next entry is the last one of those that a bucket was left for.
      obtain ⟨x, rfl⟩ := List.length_eq_one_iff.mp (hnext.antisymm (List.length_pos_of_mem he))
      obtain rfl := List.mem_singleton.mp he
      rw [List.map_append, ← List.cons_append] at hkey hclosed
      rcases List.mem_append.mp hkey with hkey | hkey
      · exact (List.pairwise_append.mp hclosed).2.2 key hkey e.1 List.mem_cons_self
      · exact (List.mem_singleton.mp hkey).le
    · rw [List.map_append, ← List.cons_append] at hsorted
      exact (List.pairwise_append.mp hsorted).2.2 key hkey e.1 (List.mem_map_of_mem he)
  have hnone : (next ++ rest).count (bucket, symbol) = 0 :=
    List.count_eq_zero.mpr fun hmem => (hlater _ hmem).ne rfl
  rw [List.append_assoc, List.count_append, hnone, Nat.add_zero]

/-- **The sample.** The times of the updates come in order, and none is before the epoch.
Whatever raises, an initial segment of the updates is counted by bucket and symbol. The tables
that are printed are those of the buckets that were left, in order and each once, and they are
complete: nothing in the log is within a bucket that was printed and is not counted. When
nothing raises, all updates are counted. -/
theorem main_tables {R : Type} (log : List (List (Fed (MessageInfo R) TopOfBookValue Faults)))
    (hsorted : ((0 : Int64) :: (tops log.flatten).map Prod.fst).Pairwise (· ≤ ·)) :
    let result := main log
    let entries := (tops log.flatten).map entry
    ∃ counted next rest, entries = counted ++ next ++ rest ∧ next.length ≤ 1 ∧
      (∀ bucket symbol, result.1.countOf bucket symbol = counted.count (bucket, symbol)) ∧
      (let left := Groups.left 0 ((counted ++ next).map Prod.fst)
      result.1.printed = left.map result.1.table ∧ left.Pairwise (· < ·) ∧
        ∀ bucket ∈ left, ∀ symbol,
          result.1.countOf bucket symbol = entries.count (bucket, symbol)) ∧
      (result.2 = none → counted = entries) := by
  intro result entries
  obtain ⟨performed, hperformed, hstate, hall⟩ := performs_main log
  obtain ⟨counted, next, rest, hentries, hnext, hclose, hcount, hcounted⟩ :=
    prefix_asks hperformed
  replace hentries : entries = counted ++ next ++ rest := hentries
  have hbuckets : ((0 : ℤ) :: entries.map Prod.fst).Pairwise (· ≤ ·) := pairwise_entries hsorted
  have hoperations : ((0 : ℤ) :: performed.map Operation.bucket).Pairwise (· ≤ ·) :=
    (pairwise_asks hbuckets).sublist ((hperformed.map _).sublist.cons_cons 0)
  have hcounts (bucket : ℤ) (symbol : String) :
      result.1.countOf bucket symbol = counted.count (bucket, symbol) := by
    have hrun := countOf_foldl new performed bucket symbol
    rw [← hstate, hcount] at hrun
    exact hrun.trans (Nat.zero_add _)
  refine ⟨counted, next, rest, hentries, hnext, hcounts, ⟨?_, ?_, ?_⟩, fun hnone => ?_⟩
  · have hprinted := printed_foldl new hoperations
    rw [← hstate, hclose] at hprinted
    exact hprinted
  · refine Groups.pairwise_left ?_
    have hinitial : (counted ++ next).map Prod.fst <+: entries.map Prod.fst := by
      rw [hentries]
      exact (List.prefix_append _ _).map _
    exact hbuckets.sublist (hinitial.sublist.cons_cons 0)
  · intro bucket hbucket symbol
    rw [hcounts, hentries]
    rw [hentries] at hbuckets
    exact count_eq_of_mem_left hbuckets hnext hbucket symbol
  · exact hcounted (hall hnone)

/-- An update that was received some seconds after the epoch. -/
def sampleTop (seconds : Int64) : Fed (MessageInfo Unit) TopOfBookValue Faults :=
  .event ⟨seconds * 1000000000, ()⟩ (.topOfBook "BTC-PERPETUAL") ⟨false, false, false⟩

/-- Two updates of the first five minutes, and one of the next. -/
def sampleLog : List (List (Fed (MessageInfo Unit) TopOfBookValue Faults)) :=
  [[sampleTop 100, sampleTop 200], [sampleTop 400]]

/-- The table of the first five minutes is printed, with both updates. -/
theorem main_tables_sample :
    let result := main sampleLog
    result.1.countOf 0 "BTC-PERPETUAL" = 2 ∧ result.1.countOf 300 "BTC-PERPETUAL" = 1 ∧
      result.1.printed = [result.1.table 0] := by
  have hnone : (main sampleLog).2 = none := by decide +kernel
  have hentries : (tops sampleLog.flatten).map entry =
      [(0, "BTC-PERPETUAL"), (0, "BTC-PERPETUAL"), (300, "BTC-PERPETUAL")] := by decide +kernel
  obtain ⟨counted, next, rest, hsplit, -, hcount, ⟨hprinted, -, -⟩, hall⟩ :=
    main_tables sampleLog (by decide)
  obtain rfl := hall hnone
  rw [List.append_assoc] at hsplit
  obtain ⟨rfl, rfl⟩ := List.append_eq_nil_iff.mp (List.self_eq_append_right.mp hsplit)
  rw [List.append_nil, hentries] at hprinted
  dsimp only
  rw [hcount, hcount, hprinted, hentries]
  exact ⟨rfl, rfl, rfl⟩

end PivotTable

end RoqPython.Client
