import DevolutionsGateway.Layout
import Mathlib.Order.Compare
import Mathlib.Data.List.Perm.Basic

/-!
# The eviction queue: `DisconnectedTtl` in a `BinaryHeap`

The recording manager keeps one `DisconnectedTtl` per handled `Disconnect` in a
`BinaryHeap`, a max-heap for `Ord`. Its `Ord` reverses the comparison of deadlines so that
the heap's greatest element is the eviction due first; equal deadlines fall back on the
order of the session ids.

`BinaryHeap` is modelled as the multiset of its elements, as a list: `push` adds an element,
`peek` returns a greatest element for `compare`, and `pop` returns it and removes one copy.
For a lawful order this is what the real heap computes: the greatest value is unique.

Deadlines are instants of the monotonic clock, `tokio::time::Instant`, modelled as whole
seconds (`Int`).

## Main results

* `DisconnectedTtl.cmp_ne_gt_iff`: the order `cmp` defines, in terms of deadlines and ids.
* `DisconnectedTtl.instTransOrd`, `DisconnectedTtl.instBEqOrd`: `cmp` is a lawful total order
  whose equality is the `PartialEq` of the source.
* `BinaryHeap.peek_greatest`: `peek` and `pop` return a greatest element of a lawful order.
* `DisconnectedTtl.deadline_le_of_greatest`: the greatest eviction has the earliest deadline.
-/

namespace DevolutionsGateway

/-! ### The heap -/

/-- `std::collections::BinaryHeap`, as the multiset of its elements. -/
structure BinaryHeap (α : Type) where
  elems : List α

namespace BinaryHeap

variable {α : Type} [Ord α]

/-- `BinaryHeap::new`. -/
def empty : BinaryHeap α := ⟨[]⟩

/-- `BinaryHeap::push`. -/
def push (h : BinaryHeap α) (x : α) : BinaryHeap α := ⟨x :: h.elems⟩

/-- `BinaryHeap::is_empty`. -/
def isEmpty (h : BinaryHeap α) : Bool := h.elems.isEmpty

/-- The greater of two candidates, keeping the first on ties. -/
def maxStep (x : α) : Option α → Option α
  | none => some x
  | some m => if compare x m = .gt then some x else some m

theorem maxStep_ne_none (x : α) (o : Option α) : maxStep x o ≠ none := by
  cases o with
  | none => simp [maxStep]
  | some m => simp only [maxStep]; split <;> simp

/-- `BinaryHeap::peek`: a greatest element. -/
def peek (h : BinaryHeap α) : Option α := h.elems.foldr maxStep none

/-- `BinaryHeap::pop`: a greatest element, and the heap without it. -/
def pop [BEq α] (h : BinaryHeap α) : Option (α × BinaryHeap α) :=
  h.peek.map fun m => (m, ⟨h.elems.erase m⟩)

theorem peek_eq_none_iff {h : BinaryHeap α} : h.peek = none ↔ h.elems = [] := by
  rcases h with ⟨_ | ⟨x, xs⟩⟩
  · simp [peek]
  · simp only [peek, List.foldr_cons, reduceCtorEq, iff_false]
    exact maxStep_ne_none _ _

theorem mem_of_peek {h : BinaryHeap α} {m : α} (hm : h.peek = some m) : m ∈ h.elems := by
  rcases h with ⟨l⟩
  induction l generalizing m with
  | nil => simp [peek] at hm
  | cons x xs ih =>
    simp only [peek, List.foldr_cons] at hm ih
    cases hr : xs.foldr maxStep none with
    | none => simp_all [maxStep]
    | some r =>
      simp only [hr, maxStep] at hm
      split at hm <;> cases hm
      · exact List.mem_cons_self _ _
      · exact List.mem_cons_of_mem _ (ih hr)

/-- **`peek` returns a greatest element** of a transitive order. -/
theorem peek_greatest [Batteries.TransOrd α] {h : BinaryHeap α} {m : α} (hm : h.peek = some m) :
    ∀ x ∈ h.elems, compare x m ≠ .gt := by
  rcases h with ⟨l⟩
  induction l generalizing m with
  | nil => simp [peek] at hm
  | cons x xs ih =>
    simp only [peek, List.foldr_cons] at hm ih
    cases hr : xs.foldr maxStep none with
    | none =>
      obtain rfl : x = m := by simpa [hr, maxStep] using hm
      have : xs = [] := peek_eq_none_iff.mp hr
      simp [this, Batteries.OrientedCmp.cmp_refl]
    | some r =>
      simp only [hr, maxStep] at hm
      split at hm
      · rename_i hxr
        obtain rfl : x = m := Option.some.inj hm
        have hrx : compare r x = .lt := Batteries.OrientedCmp.cmp_eq_gt.mp hxr
        intro y hy
        rcases List.mem_cons.mp hy with rfl | hy
        · simp [Batteries.OrientedCmp.cmp_refl]
        · exact ne_of_eq_of_ne (Batteries.TransCmp.le_lt_trans (ih hr y hy) hrx) (by decide)
      · rename_i hxr
        obtain rfl : r = m := Option.some.inj hm
        intro y hy
        rcases List.mem_cons.mp hy with rfl | hy
        exacts [hxr, ih hr y hy]

theorem pop_eq_some [BEq α] {h h' : BinaryHeap α} {m : α} :
    h.pop = some (m, h') ↔ h.peek = some m ∧ h' = ⟨h.elems.erase m⟩ := by
  simp only [pop, Option.map_eq_some', Prod.mk.injEq]
  constructor
  · rintro ⟨m', hm', rfl, rfl⟩
    exact ⟨hm', rfl⟩
  · rintro ⟨hm, rfl⟩
    exact ⟨m, hm, rfl, rfl⟩

end BinaryHeap

/-! ### Pending evictions -/

/-- `DisconnectedTtl`: the eviction of session `id`, due at `deadline`. -/
structure DisconnectedTtl where
  deadline : Int
  id : Uuid
deriving DecidableEq

/-- `PartialEq for DisconnectedTtl`. -/
instance : BEq DisconnectedTtl := ⟨fun a b => a.deadline == b.deadline && a.id == b.id⟩

instance : LawfulBEq DisconnectedTtl where
  eq_of_beq {a b} h := by
    cases a; cases b
    simp only [BEq.beq, Bool.and_eq_true, decide_eq_true_eq] at h
    simp [h.1, h.2]
  rfl {a} := by simp [BEq.beq]

/-- `Ord for DisconnectedTtl`: a later deadline compares smaller, so that the max-heap yields
the earliest deadline first; equal deadlines compare by id. -/
def DisconnectedTtl.cmp (a b : DisconnectedTtl) : Ordering :=
  match compare a.deadline b.deadline with
  | .lt => .gt
  | .eq => compare a.id b.id
  | .gt => .lt

instance : Ord DisconnectedTtl := ⟨DisconnectedTtl.cmp⟩

namespace DisconnectedTtl

theorem compare_def (a b : DisconnectedTtl) : compare a b = a.cmp b := rfl

theorem cmp_of_eq {a b : DisconnectedTtl} (h : a.deadline = b.deadline) :
    a.cmp b = compare a.id.toNat b.id.toNat := by
  rw [cmp, compare_eq_iff_eq.mpr h]
  rfl

theorem cmp_eq_gt_iff {a b : DisconnectedTtl} :
    a.cmp b = .gt ↔
      a.deadline < b.deadline ∨ (a.deadline = b.deadline ∧ b.id.toNat < a.id.toNat) := by
  rcases lt_trichotomy a.deadline b.deadline with h | h | h
  · simp [cmp, compare_lt_iff_lt.mpr h, h]
  · rw [cmp_of_eq h, Nat.compare_eq_gt]
    simp [h]
  · simp [cmp, compare_gt_iff_gt.mpr h, h.not_lt, h.ne']

theorem cmp_eq_eq_iff {a b : DisconnectedTtl} : a.cmp b = .eq ↔ a = b := by
  rcases lt_trichotomy a.deadline b.deadline with h | h | h
  · simp [cmp, compare_lt_iff_lt.mpr h]
    rintro rfl
    exact h.false
  · rw [cmp_of_eq h, Nat.compare_eq_eq]
    rcases a with ⟨da, ⟨ia, ha⟩⟩
    rcases b with ⟨db, ⟨ib, hb⟩⟩
    simp_all
  · simp [cmp, compare_gt_iff_gt.mpr h]
    rintro rfl
    exact h.false

/-- The order `cmp` defines: `a` is at most `b` when it is due later, or at the same time
for an id that is not greater. -/
theorem cmp_ne_gt_iff {a b : DisconnectedTtl} :
    a.cmp b ≠ .gt ↔
      b.deadline < a.deadline ∨ (a.deadline = b.deadline ∧ a.id.toNat ≤ b.id.toNat) := by
  rw [Ne, cmp_eq_gt_iff]
  omega

theorem cmp_swap (a b : DisconnectedTtl) : (a.cmp b).swap = b.cmp a := by
  rcases lt_trichotomy a.deadline b.deadline with h | h | h
  · simp [cmp, compare_lt_iff_lt.mpr h, compare_gt_iff_gt.mpr h]; rfl
  · rw [cmp_of_eq h, cmp_of_eq h.symm, Nat.compare_swap]
  · simp [cmp, compare_lt_iff_lt.mpr h, compare_gt_iff_gt.mpr h]; rfl

/-- **`Ord for DisconnectedTtl` is antisymmetric and transitive.** -/
theorem instTransOrd : Batteries.TransOrd DisconnectedTtl where
  symm := cmp_swap
  le_trans {a b c} hab hbc := by
    simp only [compare_def, cmp_ne_gt_iff] at *
    omega

attribute [instance] instTransOrd

/-- **`Ord for DisconnectedTtl` agrees with its `PartialEq`.** -/
theorem instBEqOrd : Batteries.BEqOrd DisconnectedTtl where
  cmp_iff_beq {a b} := by
    rw [compare_def, cmp_eq_eq_iff]
    exact beq_iff_eq.symm

attribute [instance] instBEqOrd

/-- **The greatest eviction is due first**: an element no other compares above has the
earliest deadline. -/
theorem deadline_le_of_greatest {l : List DisconnectedTtl} {g : DisconnectedTtl}
    (hg : ∀ x ∈ l, compare x g ≠ .gt) : ∀ x ∈ l, g.deadline ≤ x.deadline := fun x hx => by
  have := cmp_ne_gt_iff.mp (hg x hx)
  omega

/-- What `peek` returns is due no later than anything in the heap. -/
theorem peek_deadline_le {h : BinaryHeap DisconnectedTtl} {g : DisconnectedTtl}
    (hg : h.peek = some g) : ∀ x ∈ h.elems, g.deadline ≤ x.deadline :=
  deadline_le_of_greatest (BinaryHeap.peek_greatest hg)

end DisconnectedTtl

/-- **The eviction queue serves the earliest deadline first.** `Ord for DisconnectedTtl` is
a lawful total order (antisymmetric and transitive) whose equality is its `PartialEq`; in
every collection, an element no other compares above has the earliest deadline; and in
every non-empty heap `peek` and `pop` return such an element. -/
theorem disconnectedTtl_heap_order :
    Batteries.TransOrd DisconnectedTtl ∧ Batteries.BEqOrd DisconnectedTtl ∧
    (∀ (l : List DisconnectedTtl) (g : DisconnectedTtl),
      (∀ x ∈ l, compare x g ≠ .gt) → ∀ x ∈ l, g.deadline ≤ x.deadline) ∧
    ∀ h : BinaryHeap DisconnectedTtl, h.elems ≠ [] →
      ∃ g, h.peek = some g ∧ h.pop = some (g, ⟨h.elems.erase g⟩) ∧ g ∈ h.elems ∧
        ∀ x ∈ h.elems, compare x g ≠ .gt ∧ g.deadline ≤ x.deadline := by
  refine ⟨inferInstance, inferInstance, fun _ _ => DisconnectedTtl.deadline_le_of_greatest, ?_⟩
  intro h hne
  obtain ⟨g, hg⟩ := Option.ne_none_iff_exists'.mp (mt BinaryHeap.peek_eq_none_iff.mp hne)
  have hgreat := BinaryHeap.peek_greatest hg
  exact ⟨g, hg, BinaryHeap.pop_eq_some.mpr ⟨hg, rfl⟩, BinaryHeap.mem_of_peek hg,
    fun x hx => ⟨hgreat x hx, DisconnectedTtl.deadline_le_of_greatest hgreat x hx⟩⟩

end DevolutionsGateway
