import Mathlib.Data.List.Nodup
import Mathlib.Data.List.Range

/-!
# Loans

A party lends values to another one by making objects that refer to them. Values that are lent
together are taken back together, and what was lent last is taken back first. An object that is
kept for longer than its loan refers to nothing any more.

## Main results

* `Stack.lend`, `Stack.revoke`: the two operations keep the invariant of a stack of loans.
* `Stack.memory_of_mem`: an object refers to its value for as long as it is lent.
* `Stack.mem_last_or_revoke`: what is taken back is what was lent last.
-/

namespace Loans

variable {κ V : Type*}

/-- The objects of loans. -/
def objects (lent : List (κ × List ℕ)) : List ℕ := lent.flatMap Prod.snd

/-- A stack of loans: the values for which objects were made, in order; what is behind each
object; and the loans, each with a key and its objects, the last one first. An object refers to
its value exactly as long as it is lent. -/
structure Stack (κ V : Type*) where
  made : List V
  memory : ℕ → Option V
  lent : List (κ × List ℕ)
  lt_length : ∀ i ∈ objects lent, i < made.length
  nodup : (objects lent).Nodup
  memory_eq : ∀ i, memory i = if i ∈ objects lent then made[i]? else none

namespace Stack

variable {self : Stack κ V} {i : ℕ}

/-- Nothing was lent. -/
def empty : Stack κ V where
  made := []
  memory _ := none
  lent := []
  lt_length _ hi := absurd hi List.not_mem_nil
  nodup := .nil
  memory_eq _ := rfl

/-- An object that is lent refers to its value. -/
theorem memory_of_mem (h : i ∈ objects self.lent) : self.memory i = self.made[i]? := by
  rw [self.memory_eq, if_pos h]

/-! ### Lending -/

/-- The objects of the next loan. -/
def next (self : Stack κ V) (values : List V) : List ℕ :=
  List.range' self.made.length values.length

theorem mem_next {values : List V} :
    i ∈ self.next values ↔ self.made.length ≤ i ∧ i < self.made.length + values.length :=
  List.mem_range'_1

/-- Lend values: an object is made for each of them. -/
def lend (self : Stack κ V) (key : κ) (values : List V) : Stack κ V where
  made := self.made ++ values
  memory i := if i < self.made.length then self.memory i else values[i - self.made.length]?
  lent := (key, self.next values) :: self.lent
  lt_length i hi := by
    rw [List.length_append]
    rcases List.mem_append.mp hi with hnext | hold
    · exact (mem_next.mp hnext).2
    · exact Nat.lt_add_right _ (self.lt_length i hold)
  nodup := by
    refine List.nodup_append'.mpr ⟨List.nodup_range', self.nodup, fun i hnext hold => ?_⟩
    exact absurd (self.lt_length i hold) (Nat.not_lt.mpr (mem_next.mp hnext).1)
  memory_eq i := by
    have hobjects : i ∈ objects ((key, self.next values) :: self.lent) ↔
        i ∈ self.next values ∨ i ∈ objects self.lent := List.mem_append
    rw [if_congr hobjects rfl rfl]
    by_cases hlt : i < self.made.length
    · have hnext : i ∉ self.next values := fun h => absurd hlt (Nat.not_lt.mpr (mem_next.mp h).1)
      rw [if_pos hlt, self.memory_eq, List.getElem?_append_left hlt]
      simp only [hnext, false_or]
    · have hle : self.made.length ≤ i := Nat.not_lt.mp hlt
      have hold : i ∉ objects self.lent := fun h => hlt (self.lt_length i h)
      rw [if_neg hlt, List.getElem?_append_right hle]
      by_cases hnext : i ∈ self.next values
      · rw [if_pos (.inl hnext)]
      · rw [if_neg (fun h => h.elim hnext hold), List.getElem?_eq_none]
        rw [mem_next] at hnext
        omega

/-- The objects that are lent after a loan. -/
theorem mem_objects_lend {key : κ} {values : List V} :
    i ∈ objects (self.lend key values).lent ↔ i ∈ self.next values ∨ i ∈ objects self.lent :=
  List.mem_append

/-! ### Taking back -/

/-- The objects of the last loan. -/
def last (self : Stack κ V) : List ℕ := (self.lent.head?.map Prod.snd).getD []

theorem objects_eq (self : Stack κ V) :
    objects self.lent = self.last ++ objects self.lent.tail := by
  rw [last]
  cases self.lent <;> rfl

/-- Take the last loan back. -/
def revoke (self : Stack κ V) : Stack κ V where
  made := self.made
  memory i := if i ∈ self.last then none else self.memory i
  lent := self.lent.tail
  lt_length i hi := self.lt_length i (self.objects_eq ▸ List.mem_append_right _ hi)
  nodup := (List.nodup_append'.mp (self.objects_eq ▸ self.nodup)).2.1
  memory_eq i := by
    have hdisjoint := (List.nodup_append'.mp (self.objects_eq ▸ self.nodup)).2.2
    by_cases hlast : i ∈ self.last
    · rw [if_pos hlast, if_neg fun htail => hdisjoint hlast htail]
    · have hobjects : i ∈ objects self.lent ↔ i ∈ objects self.lent.tail := by
        rw [objects_eq, List.mem_append, or_iff_right hlast]
      rw [if_neg hlast, self.memory_eq, if_congr hobjects rfl rfl]

/-- What was lent before is of the last loan, or is still lent. -/
theorem mem_last_or_revoke (h : i ∈ objects self.lent) :
    i ∈ self.last ∨ i ∈ objects self.revoke.lent :=
  List.mem_append.mp (self.objects_eq ▸ h)

theorem last_subset : self.last ⊆ objects self.lent :=
  fun _ hi => self.objects_eq ▸ List.mem_append_left _ hi

end Stack

end Loans
