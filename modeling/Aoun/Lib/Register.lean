import Mathlib.Algebra.Order.Monoid.Defs
import Mathlib.Data.Set.Insert

/-!
# Adding to a shared number by reading it and writing it back

Several parties add to a stored number. Each reads it, and later writes back what it read
plus its amount; nothing prevents a write between the two. Along with the stored number goes
the total, which every write increases by its amount: this is what the number would be if
reading and writing were one step.

## Main definitions

* `Register` — the stored number, the total, and the numbers read but not yet written back.
* `Register.Keeps`, `Register.Adds` — the steps: nothing is written, or a number that was
  read is written back with an amount added.
* `Register.Sound` — the invariant.
* `Register.Waits`, `Register.Within` — a step that may give up an addition, and the bounds that
  remain.

## Main results

* `Register.Sound.step` — the invariant is kept.
* `Register.Sound.adds_iff` — after a write the number is the total if and only if it was
  before and the number written back was still the number stored.
* `Register.Within.step` — the number stays between where it started and the total, whatever is
  lost or given up.
-/

set_option relaxedAutoImplicit false
set_option autoImplicit false

/-- A number that is added to by reading it and writing it back. -/
structure Register (M : Type*) where
  /-- The number stored. -/
  value : M
  /-- What it would be if no addition had been lost. -/
  total : M
  /-- The numbers read and not written back yet. -/
  reads : Set M

namespace Register

variable {M : Type*} [PartialOrder M]

/-- The stored number is at most the total, and a number that was read is the stored number
or less than the total. -/
structure Sound (r : Register M) : Prop where
  value_le : r.value ≤ r.total
  reads : ∀ v ∈ r.reads, v = r.value ∨ v < r.total

/-- What was read is at most the total. -/
lemma Sound.le_total {r : Register M} (hr : r.Sound) {v : M} (hv : v ∈ r.reads) :
    v ≤ r.total := by
  rcases hr.reads v hv with rfl | h
  · exact hr.value_le
  · exact h.le

variable [AddCommMonoid M]

/-- Nothing is written, and what is read is the stored number. -/
structure Keeps (r r' : Register M) : Prop where
  value : r'.value = r.value
  total : r'.total = r.total
  reads : r'.reads ⊆ insert r.value r.reads

/-- A number `v` that was read is written back, increased by `amount`. -/
structure Adds (v amount : M) (r r' : Register M) : Prop where
  read : v ∈ r.reads
  pos : 0 < amount
  value : r'.value = v + amount
  total : r'.total = r.total + amount
  reads : r'.reads ⊆ r.reads

/-- One step. -/
def Step (r r' : Register M) : Prop := Keeps r r' ∨ ∃ v amount, Adds v amount r r'

variable [IsOrderedCancelAddMonoid M] {r r' : Register M}

/-- The invariant is kept.

**Proof sketch.** A write increases the total by a positive amount, so that all that was read
before it is less than the new total. -/
theorem Sound.step (hr : r.Sound) (hs : Step r r') : r'.Sound := by
  rcases hs with h | ⟨v, amount, h⟩
  · refine ⟨by rw [h.value, h.total]; exact hr.value_le, fun v hv => ?_⟩
    rw [h.value, h.total]
    rcases h.reads hv with rfl | hv
    · left; rfl
    · exact hr.reads v hv
  · refine ⟨?_, fun u hu => Or.inr ?_⟩
    · rw [h.value, h.total]
      exact add_le_add_left (hr.le_total h.read) amount
    · rw [h.total]
      calc u ≤ r.total := hr.le_total (h.reads hu)
        _ < r.total + amount := lt_add_of_pos_right _ h.pos

/-- **Which write loses something.** After a write the number is the total if and only if it
was before and the number written back was still the one stored. -/
theorem Sound.adds_iff (hr : r.Sound) {v amount : M} (h : Adds v amount r r') :
    r'.value = r'.total ↔ r.value = r.total ∧ v = r.value := by
  rw [h.value, h.total, add_left_inj]
  constructor
  · intro heq
    rcases hr.reads v h.read with hvalue | hlt
    · exact ⟨hvalue.symm.trans heq, hvalue⟩
    · exact absurd heq hlt.ne
  · rintro ⟨h₁, h₂⟩
    exact h₂.trans h₁

/-! ### When additions may be given up -/

/-- Nothing is written, what is read is the stored number, and the total does not fall: it grows
by what is given up of the additions that were still to come. -/
structure Waits (r r' : Register M) : Prop where
  value : r'.value = r.value
  total : r.total ≤ r'.total
  reads : r'.reads ⊆ insert r.value r.reads

/-- The stored number, and whatever was read, lies between `low` and the total. -/
structure Within (low : M) (r : Register M) : Prop where
  value : low ≤ r.value ∧ r.value ≤ r.total
  reads : ∀ v ∈ r.reads, low ≤ v ∧ v ≤ r.total

/-- **The bounds are kept**, whatever additions are lost or given up.

**Proof sketch.** A number that was read was within the bounds; with a positive amount it is above
the lower one, and the total has grown by the same amount. -/
theorem Within.step {low : M} (hr : r.Within low)
    (hs : Waits r r' ∨ ∃ v amount, Adds v amount r r') : r'.Within low := by
  rcases hs with h | ⟨v, amount, h⟩
  · refine ⟨?_, fun v hv => ?_⟩
    · rw [h.value]
      exact ⟨hr.value.1, hr.value.2.trans h.total⟩
    · rcases h.reads hv with rfl | hv
      · exact ⟨hr.value.1, hr.value.2.trans h.total⟩
      · exact ⟨(hr.reads v hv).1, (hr.reads v hv).2.trans h.total⟩
  · obtain ⟨hlow, htotal⟩ := hr.reads v h.read
    refine ⟨⟨?_, ?_⟩, fun u hu => ⟨(hr.reads u (h.reads hu)).1, ?_⟩⟩
    · rw [h.value]
      exact hlow.trans (lt_add_of_pos_right v h.pos).le
    · rw [h.value, h.total]
      exact add_le_add_left htotal amount
    · rw [h.total]
      exact (hr.reads u (h.reads hu)).2.trans (lt_add_of_pos_right _ h.pos).le

end Register
