import Mathlib.Data.List.Sort
import Mathlib.Algebra.Order.Ring.Int
import Mathlib.Tactic.Linarith

/-! # The latency aggregate of the benchmarks

`ResAggregate` (`stats/stats.go`) collects the round-trip times `rpcbench`
measures. `Add` appends a sample and clears `sorted`. `Min`, `Max` and
`Percentile` sort the samples in place the first time they are asked after an
`Add`, and set `sorted` so that later queries skip the sort. `Percentile(p)`
panics unless `0 < p < 100`, and otherwise reads the sample at rank
`p * n / 100` of the `n` samples.

Samples are only appended and compared, so a `time.Duration` is an `Int` here.
`sort.Sort` is not stable, but equal integers cannot be told apart: every sort
gives the one ascending permutation, the one `List.mergeSort` computes. The
product `p * len(samples)` stays far inside `int` for any slice that fits in
memory and is taken without overflow. An index out of range panics: `none`.

The cache cannot be observed (`run_eq_sortEachTime`): every sequence of calls
gets the answers it would get if each query sorted a copy of the samples in the
order they were added. For `p` in range the rank is inside the samples, and the
percentiles grow with `p` from `Min()` to `Max()` (`percentile_mono`).
-/

namespace AnyCable.Stats
set_option autoImplicit false

abbrev Duration := Int

structure ResAggregate where
  samples : List Duration
  sorted : Bool

def ascending (samples : List Duration) : List Duration :=
  samples.mergeSort fun a b => decide (a ≤ b)

namespace ResAggregate

def add (agg : ResAggregate) (rtt : Duration) : ResAggregate := ⟨agg.samples ++ [rtt], false⟩

def count (agg : ResAggregate) : Nat := agg.samples.length

/-- `agg.sort()`: `sort.Sort(byAsc(agg.samples))` unless `agg.sorted`. -/
def sort (agg : ResAggregate) : ResAggregate :=
  if agg.sorted then agg else ⟨ascending agg.samples, true⟩

def min (agg : ResAggregate) : Option (Duration × ResAggregate) :=
  if agg.count = 0 then some (0, agg)
  else
    let agg := agg.sort
    agg.samples[0]?.map fun d => (d, agg)

def max (agg : ResAggregate) : Option (Duration × ResAggregate) :=
  if agg.count = 0 then some (0, agg)
  else
    let agg := agg.sort
    agg.samples[agg.samples.length - 1]?.map fun d => (d, agg)

/-- `Percentile(p)`: the two panics on `p`, then the sort, which runs before the
empty check. -/
def percentile (agg : ResAggregate) (p : Int) : Option (Duration × ResAggregate) :=
  if p ≤ 0 then none
  else if 100 ≤ p then none
  else
    let agg := agg.sort
    let rank := p * agg.samples.length / 100
    if agg.count = 0 then some (0, agg)
    else agg.samples[rank.toNat]?.map fun d => (d, agg)

end ResAggregate

inductive Op where
  | add (rtt : Duration)
  | count
  | min
  | max
  | percentile (p : Int)

namespace ResAggregate

def apply (agg : ResAggregate) : Op → Option (Option Duration × ResAggregate)
  | .add rtt => some (none, agg.add rtt)
  | .count => some (some agg.count, agg)
  | .min => agg.min.map fun r => (some r.1, r.2)
  | .max => agg.max.map fun r => (some r.1, r.2)
  | .percentile p => (agg.percentile p).map fun r => (some r.1, r.2)

def run (agg : ResAggregate) : List Op → Option (List Duration)
  | [] => some []
  | op :: ops => (agg.apply op).bind fun r => (run r.2 ops).map fun answers => r.1.toList ++ answers

end ResAggregate

/-! ## Sorting a copy for every query -/

def Op.record (samples : List Duration) : Op → List Duration
  | .add rtt => samples ++ [rtt]
  | _ => samples

def answer (samples : List Duration) : Op → Option (Option Duration)
  | .add _ => some none
  | .count => some (some samples.length)
  | .min => if samples.length = 0 then some (some 0) else (ascending samples)[0]?.map some
  | .max => if samples.length = 0 then some (some 0) else (ascending samples)[samples.length - 1]?.map some
  | .percentile p =>
    if p ≤ 0 ∨ 100 ≤ p then none
    else if samples.length = 0 then some (some 0)
    else (ascending samples)[(p * samples.length / 100).toNat]?.map some

def sortEachTime (samples : List Duration) : List Op → Option (List Duration)
  | [] => some []
  | op :: ops => (answer samples op).bind fun a => (sortEachTime (op.record samples) ops).map fun answers => a.toList ++ answers

/-! ## The cache -/

theorem pairwise_ascending (samples : List Duration) : (ascending samples).Pairwise (· ≤ ·) :=
  List.pairwise_mergeSort' (· ≤ ·) samples

theorem ascending_perm (samples : List Duration) : (ascending samples).Perm samples :=
  List.mergeSort_perm samples _

theorem ascending_eq_of_perm {l l' : List Duration} (h : l.Perm l') : ascending l = ascending l' :=
  List.Perm.eq_of_pairwise' (pairwise_ascending l) (pairwise_ascending l')
    (((ascending_perm l).trans h).trans (ascending_perm l').symm)

@[simp] theorem length_ascending (samples : List Duration) : (ascending samples).length = samples.length :=
  (ascending_perm samples).length_eq

/-- What the aggregate keeps: its samples are the ones added, in some order,
and `sorted` promises that they are in ascending order. -/
structure Caches (added : List Duration) (agg : ResAggregate) : Prop where
  perm : agg.samples.Perm added
  sorted : agg.sorted = true → agg.samples = ascending added

namespace Caches
variable {added : List Duration} {agg : ResAggregate}

theorem zero : Caches [] ⟨[], false⟩ := ⟨.refl _, by simp⟩

theorem count_eq (h : Caches added agg) : agg.count = added.length := h.perm.length_eq

theorem sort_samples (h : Caches added agg) : agg.sort.samples = ascending added := by
  unfold ResAggregate.sort
  split
  · exact h.sorted ‹_›
  · exact ascending_eq_of_perm h.perm

theorem sort (h : Caches added agg) : Caches added agg.sort := by
  refine ⟨?_, fun _ => h.sort_samples⟩
  rw [h.sort_samples]
  exact ascending_perm added

theorem add (h : Caches added agg) (rtt : Duration) : Caches (added ++ [rtt]) (agg.add rtt) :=
  ⟨h.perm.append_right [rtt], by simp [ResAggregate.add]⟩

theorem of_mem_query (h : Caches added agg) {o : Option Duration} {r : Duration × ResAggregate}
    (hr : (if agg.count = 0 then some (0, agg) else o.map fun d => (d, agg.sort)) = some r) :
    Caches added r.2 := by
  split at hr
  · cases hr
    exact h
  · obtain ⟨d, -, rfl⟩ := Option.map_eq_some_iff.mp hr
    exact h.sort

theorem apply_spec (h : Caches added agg) (op : Op) :
    (agg.apply op).map Prod.fst = answer added op ∧ ∀ r ∈ agg.apply op, Caches (op.record added) r.2 := by
  cases op with
  | add rtt => exact ⟨rfl, fun r hr => by cases hr; exact h.add rtt⟩
  | count => exact ⟨by simp [ResAggregate.apply, answer, h.count_eq], fun r hr => by cases hr; exact h⟩
  | min =>
    constructor
    · by_cases hEmpty : added.length = 0 <;>
        simp [ResAggregate.apply, ResAggregate.min, answer, h.count_eq, h.sort_samples, hEmpty, Option.map_map,
          Function.comp_def]
    · intro r hr
      simp only [ResAggregate.apply, ResAggregate.min, Option.mem_def, Option.map_eq_some_iff] at hr
      obtain ⟨r', hr', rfl⟩ := hr
      exact h.of_mem_query hr'
  | max =>
    constructor
    · by_cases hEmpty : added.length = 0 <;>
        simp [ResAggregate.apply, ResAggregate.max, answer, h.count_eq, h.sort_samples, hEmpty, Option.map_map,
          Function.comp_def]
    · intro r hr
      simp only [ResAggregate.apply, ResAggregate.max, Option.mem_def, Option.map_eq_some_iff] at hr
      obtain ⟨r', hr', rfl⟩ := hr
      exact h.of_mem_query hr'
  | percentile p =>
    constructor
    · by_cases hLow : p ≤ 0
      · simp [ResAggregate.apply, ResAggregate.percentile, answer, hLow]
      · by_cases hHigh : 100 ≤ p
        · simp [ResAggregate.apply, ResAggregate.percentile, answer, hLow, hHigh]
        · by_cases hEmpty : added.length = 0 <;>
            simp [ResAggregate.apply, ResAggregate.percentile, answer, h.sort.count_eq, h.sort_samples, hLow,
              hHigh, hEmpty, Option.map_map, Function.comp_def]
    · intro r hr
      simp only [ResAggregate.apply, ResAggregate.percentile, Option.mem_def, Option.map_eq_some_iff] at hr
      obtain ⟨r', hr', rfl⟩ := hr
      split at hr'
      · cases hr'
      split at hr'
      · cases hr'
      split at hr'
      · cases hr'
        exact h.sort
      · obtain ⟨d, -, rfl⟩ := Option.map_eq_some_iff.mp hr'
        exact h.sort

end Caches

/-- Over any sequence of calls, from any aggregate whose cache is honest about
the samples added so far, the answers are the ones sorting a copy of those
samples for every query gives; in particular the zero value answers every
sequence so. -/
theorem run_eq_sortEachTime (ops : List Op) (added : List Duration) (agg : ResAggregate)
    (hCaches : Caches added agg) : agg.run ops = sortEachTime added ops := by
  induction ops generalizing added agg with
  | nil => rfl
  | cons op ops ih =>
    obtain ⟨hAnswer, hNext⟩ := hCaches.apply_spec op
    unfold ResAggregate.run sortEachTime
    cases hApply : agg.apply op with
    | none =>
      rw [hApply] at hAnswer
      rw [← hAnswer]
      rfl
    | some r =>
      rw [hApply, Option.map_some] at hAnswer
      rw [← hAnswer, Option.bind_some, Option.bind_some, ih _ _ (hNext r hApply)]

theorem run_eq_sortEachTime_zero :
    ResAggregate.run ⟨[], false⟩ [.add 3, .percentile 50, .count] = sortEachTime [] [.add 3, .percentile 50, .count] :=
  run_eq_sortEachTime _ [] _ Caches.zero

/-! ## The percentiles -/

theorem getElem_le_getElem {l : List Duration} (hSorted : l.Pairwise (· ≤ ·)) {i j : Nat} (hij : i ≤ j)
    (hj : j < l.length) : l[i] ≤ l[j] := by
  rcases Nat.lt_or_eq_of_le hij with hLt | rfl
  · exact List.pairwise_iff_getElem.mp hSorted i j (by omega) hj hLt
  · exact le_refl _

theorem rank_lt {p : Int} {n : Nat} (hp : 0 < p) (hq : p < 100) (hn : 0 < n) : (p * n / 100).toNat < n := by
  have hMul : p * n < 100 * n := Int.mul_lt_mul_of_pos_right hq (by omega)
  have hNonneg : 0 ≤ p * n := Int.mul_nonneg (by omega) (by omega)
  omega

theorem rank_mono {p q : Int} (n : Nat) (hpq : p ≤ q) : (p * n / 100).toNat ≤ (q * n / 100).toNat := by
  have hMul : p * n ≤ q * n := Int.mul_le_mul_of_nonneg_right hpq (by omega)
  omega

section Queries
variable {added : List Duration} {agg : ResAggregate}

theorem Caches.min_eq (h : Caches added agg) (hn : 0 < added.length) :
    agg.min.map Prod.fst = some ((ascending added).get ⟨0, by rw [length_ascending]; exact hn⟩) := by
  have hCount : agg.count ≠ 0 := by rw [h.count_eq]; omega
  simp [ResAggregate.min, hCount, h.sort_samples, Option.map_map, Function.comp_def]

theorem Caches.max_eq (h : Caches added agg) (hn : 0 < added.length) :
    agg.max.map Prod.fst = some ((ascending added).get ⟨added.length - 1, by rw [length_ascending]; exact Nat.sub_lt hn Nat.one_pos⟩) := by
  have hCount : agg.count ≠ 0 := by rw [h.count_eq]; omega
  simp [ResAggregate.max, hCount, h.sort_samples, Option.map_map, Function.comp_def]

theorem Caches.percentile_eq (h : Caches added agg) (hn : 0 < added.length) {p : Int} (hp : 0 < p)
    (hq : p < 100) :
    (agg.percentile p).map Prod.fst =
      some ((ascending added).get ⟨(p * added.length / 100).toNat, by rw [length_ascending]; exact rank_lt hp hq hn⟩) := by
  have hCount : agg.sort.count ≠ 0 := by rw [h.sort.count_eq]; omega
  have hLow : ¬p ≤ 0 := by omega
  have hHigh : ¬100 ≤ p := by omega
  simp [ResAggregate.percentile, hLow, hHigh, hCount, h.sort_samples, Option.map_map,
    Function.comp_def]

end Queries

/-- On an aggregate the API built with at least one sample, `Percentile` never
panics for `p` in range, and the percentiles grow with `p` from `Min()` to
`Max()`. -/
theorem percentile_mono (added : List Duration) (agg : ResAggregate) (hCaches : Caches added agg)
    (hCount : 0 < agg.count) (p q : Int) (hp : 0 < p) (hpq : p ≤ q) (hq : q < 100) :
    ∃ lo dp dq hi, agg.min.map Prod.fst = some lo ∧ (agg.percentile p).map Prod.fst = some dp ∧
      (agg.percentile q).map Prod.fst = some dq ∧ agg.max.map Prod.fst = some hi ∧
      lo ≤ dp ∧ dp ≤ dq ∧ dq ≤ hi := by
  have hn : 0 < added.length := hCaches.count_eq ▸ hCount
  have hSorted := pairwise_ascending added
  have hLen := length_ascending added
  have hRankP := rank_lt hp (by omega) hn
  have hRankQ := rank_lt (by omega) hq hn
  refine ⟨_, _, _, _, hCaches.min_eq hn, hCaches.percentile_eq hn hp (by omega),
    hCaches.percentile_eq hn (by omega) hq, hCaches.max_eq hn, ?_, ?_, ?_⟩
  · exact getElem_le_getElem hSorted (Nat.zero_le _) _
  · exact getElem_le_getElem hSorted (rank_mono _ hpq) _
  · exact getElem_le_getElem hSorted (by omega) _

theorem percentile_mono_four_samples :
    Caches [30, 10, 20, 40] ⟨[30, 10, 20, 40], false⟩ ∧ 0 < ResAggregate.count ⟨[30, 10, 20, 40], false⟩ ∧
      ∃ lo dp dq hi, (ResAggregate.min ⟨[30, 10, 20, 40], false⟩).map Prod.fst = some lo ∧
        (ResAggregate.percentile ⟨[30, 10, 20, 40], false⟩ 50).map Prod.fst = some dp ∧
        (ResAggregate.percentile ⟨[30, 10, 20, 40], false⟩ 95).map Prod.fst = some dq ∧
        (ResAggregate.max ⟨[30, 10, 20, 40], false⟩).map Prod.fst = some hi ∧ lo ≤ dp ∧ dp ≤ dq ∧ dq ≤ hi := by
  have hCaches : Caches [30, 10, 20, 40] ⟨[30, 10, 20, 40], false⟩ := ⟨.refl _, by simp⟩
  exact ⟨hCaches, by decide,
    percentile_mono [30, 10, 20, 40] _ hCaches (by decide) 50 95 (by decide) (by decide) (by decide)⟩

end AnyCable.Stats
