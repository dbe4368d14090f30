/-
Module: KubeSchedulerSim.Proofs.TypicalDistribution
Purpose: The distribution `GetTypicalPods` is meant to return, and where it does. The spec
  weighs a request `1 + GpuNumber * GpuResWeight` in exact arithmetic (`exactWeight`). With
  an integer `GpuResWeight` and a total weighted count below `2^46`, every weight, entry,
  total and running sum is an integer below `2^53`, so `float64` adds them exactly, and
  comparing an integer with `expectedNumPods` decides as the exact `t * T / 100` does
  (`lt_expectedNumPods_iff`). The loop then stops at the least pass the spec names and keeps
  the shapes it names; only the divisions of the percentages round, which moves each by at
  most `2^-50` of itself and their sum by at most `2^-50` (`IsTypicalDistribution`,
  `getTypicalPods_distribution`). Outside that case the exit comparison can fail for ever:
  with `GpuResWeight` 0.15, three one-GPU requests add up to 3.4499999999999997 while
  `expectedNumPods` at threshold 100 rounds to 3.45, and the loop never stops
  (`getTypicalPods_fractionalWeight_eq_none`).
Trusted boundary: none beyond the model.
Main exports: TypicalPodsConfig.exactWeight, TypicalPodsConfig.weightedCount,
  TypicalPodsConfig.totalCount, ExactCounts, lt_expectedNumPods_iff, IsTypicalDistribution,
  getTypicalPods_distribution, getTypicalPods_fractionalWeight_eq_none
-/
import KubeSchedulerSim.Proofs.TypicalPods
import Mathlib.Data.Nat.Find

namespace KubeSchedulerSim

/-! ### The specified weights -/

/-- The weight the spec gives a request: `1 + GpuNumber * GpuResWeight` for a whole-GPU
request when `GpuResWeight > 0`, else `1`, in exact arithmetic. -/
def TypicalPodsConfig.exactWeight (config : TypicalPodsConfig) (r : PodResource) : ℚ :=
  if config.gpuResWeight > 0 ∧ r.milliGpu = milli then 1 + (r.gpuNumber : ℚ) * config.gpuResWeight
  else 1

/-- `c(r)`: the weighted count of shape `r` in the workload. -/
def TypicalPodsConfig.weightedCount (config : TypicalPodsConfig) (pods : List PodResource)
    (r : PodResource) : ℚ :=
  (pods.count r : ℚ) * config.exactWeight r

/-- `T`: the weighted count of every admitted request. -/
def TypicalPodsConfig.totalCount (config : TypicalPodsConfig) (pods : List PodResource) : ℚ :=
  ((pods.filter config.admits).map config.exactWeight).sum

/-- The summed count of the shapes a result keeps. -/
def TypicalPodsConfig.keptCount (config : TypicalPodsConfig) (pods : List PodResource)
    (result : TargetPodList) : ℚ :=
  ((result.map (·.targetPodResource)).map (config.weightedCount pods)).sum

section IntegerWeight

variable {config : TypicalPodsConfig} (hW : ∃ n : ℤ, config.gpuResWeight = n)
include hW

/-- With an integer `GpuResWeight`, a request for a non-negative number of GPUs weighs a
natural number. -/
theorem TypicalPodsConfig.exactWeight_natCast {r : PodResource} (hg : 0 ≤ r.gpuNumber) :
    ∃ n : ℕ, config.exactWeight r = n := by
  obtain ⟨w, hw⟩ := hW
  unfold TypicalPodsConfig.exactWeight
  split_ifs with h
  · have hw0 : 0 ≤ w := by
      have := h.1; rw [hw] at this; exact_mod_cast this.le
    have e₁ : ((r.gpuNumber.toNat : ℕ) : ℚ) = r.gpuNumber := by
      exact_mod_cast Int.toNat_of_nonneg hg
    have e₂ : ((w.toNat : ℕ) : ℚ) = w := by exact_mod_cast Int.toNat_of_nonneg hw0
    refine ⟨1 + r.gpuNumber.toNat * w.toNat, ?_⟩
    push_cast
    rw [e₁, e₂, hw]
  · exact ⟨1, by simp⟩

/-- With an integer `GpuResWeight`, `float64` computes a weight below `2^53` exactly. -/
theorem TypicalPodsConfig.weightedCnt_eq_exactWeight {r : PodResource} (hg : 0 ≤ r.gpuNumber)
    (hlt : config.exactWeight r < 2 ^ 53) : config.weightedCnt r = config.exactWeight r := by
  obtain ⟨w, hw⟩ := hW
  unfold TypicalPodsConfig.weightedCnt TypicalPodsConfig.exactWeight at *
  split_ifs at hlt ⊢ with h
  · rw [hw] at h hlt ⊢
    have hw1 : 1 ≤ w := by exact_mod_cast h.1
    have hlt' : 1 + r.gpuNumber * w < 2 ^ 53 := by exact_mod_cast hlt
    have hgw : r.gpuNumber ≤ r.gpuNumber * w := le_mul_of_one_le_right hg hw1
    have hgw0 : 0 ≤ r.gpuNumber * w := mul_nonneg hg (by omega)
    have h₁ : F64.ofInt r.gpuNumber = r.gpuNumber :=
      F64.round_intCast (by rw [abs_of_nonneg hg]; omega)
    have h₂ : F64.round ((r.gpuNumber : ℚ) * w) = r.gpuNumber * w := by
      exact_mod_cast F64.round_intCast (n := r.gpuNumber * w) (by rw [abs_of_nonneg hgw0]; omega)
    have h₃ : F64.round (1 + (r.gpuNumber : ℚ) * w) = 1 + r.gpuNumber * w := by
      exact_mod_cast F64.round_intCast (n := 1 + r.gpuNumber * w)
        (by rw [abs_of_nonneg (by omega)]; omega)
    rw [F64.add, F64.mul, h₁, h₂, h₃]
  · rfl

end IntegerWeight

theorem TypicalPodsConfig.one_le_exactWeight (config : TypicalPodsConfig) {r : PodResource}
    (hg : 0 ≤ r.gpuNumber) : 1 ≤ config.exactWeight r := by
  unfold TypicalPodsConfig.exactWeight
  split_ifs with h
  · have : (0 : ℚ) ≤ r.gpuNumber := by exact_mod_cast hg
    linarith [mul_nonneg this h.1.le]
  · exact le_rfl

/-! ### Exact counts -/

/-- A sum of natural numbers is one. -/
theorem exists_natCast_sum : ∀ {xs : List ℚ}, (∀ x ∈ xs, ∃ n : ℕ, x = n) → ∃ n : ℕ, xs.sum = n
  | [], _ => ⟨0, by simp⟩
  | x :: xs, h => by
    obtain ⟨m, rfl⟩ := h x (List.mem_cons_self _ _)
    obtain ⟨n, hn⟩ := exists_natCast_sum fun y hy => h y (List.mem_cons_of_mem _ hy)
    exact ⟨m + n, by rw [List.sum_cons, hn]; push_cast; rfl⟩

/-- The list the second loop reads holds the exact counts, natural numbers, and they add up
to the exact total, which the rounded total equals. -/
structure ExactCounts (config : TypicalPodsConfig) (pods : List PodResource)
    (L : TargetPodList) : Prop where
  value : ∀ t ∈ L, t.percentage = config.weightedCount pods t.targetPodResource
  natCast : ∀ t ∈ L, ∃ n : ℕ, t.percentage = n
  sum_eq : (L.map (·.percentage)).sum = config.totalCount pods
  total_eq : config.floatTotal pods = config.totalCount pods

section Exact

variable {config : TypicalPodsConfig} {pods : List PodResource} {L : TargetPodList}
  (hW : ∃ n : ℤ, config.gpuResWeight = n) (hgpu : ∀ p ∈ pods, 0 ≤ p.gpuNumber)
  (hT : config.totalCount pods < 2 ^ 46)

include hW hgpu hT in
/-- Every admitted request's `float64` weight is its exact weight. -/
theorem weightedCnt_eq_exactWeight_of_mem {p : PodResource} (hp : p ∈ pods.filter config.admits) :
    config.weightedCnt p = config.exactWeight p := by
  have hnn : ∀ x ∈ (pods.filter config.admits).map config.exactWeight, 0 ≤ x := fun x hx => by
    obtain ⟨q, hq, rfl⟩ := List.mem_map.mp hx
    exact zero_le_one.trans (config.one_le_exactWeight (hgpu q (List.mem_of_mem_filter hq)))
  have hle : config.exactWeight p ≤ config.totalCount pods :=
    List.single_le_sum hnn _ (List.mem_map_of_mem _ hp)
  exact config.weightedCnt_eq_exactWeight hW (hgpu p (List.mem_of_mem_filter hp))
    (by linarith [show (2 : ℚ) ^ 46 < 2 ^ 53 by norm_num])

include hW hgpu hT in
theorem weightSum_eq_totalCount : config.weightSum pods = config.totalCount pods := by
  unfold TypicalPodsConfig.weightSum TypicalPodsConfig.totalCount
  exact congrArg List.sum (List.map_congr_left fun p hp =>
    weightedCnt_eq_exactWeight_of_mem hW hgpu hT hp)

include hW hgpu hT in
/-- Under an integer weight and a total below `2^46`, the second loop reads exact counts. -/
theorem SortedCounts.exactCounts (hsc : SortedCounts config pods L) : ExactCounts config pods L := by
  have hmem : ∀ t ∈ L, t.targetPodResource ∈ pods.filter config.admits := fun t ht =>
    List.mem_filter.mpr ((hsc.mem_iff _).mp (List.mem_map_of_mem _ ht))
  have hw : ∀ t ∈ L, config.weightedCnt t.targetPodResource =
      config.exactWeight t.targetPodResource := fun t ht =>
    weightedCnt_eq_exactWeight_of_mem hW hgpu hT (hmem t ht)
  have hnat : ∀ t ∈ L, ∃ n : ℕ, config.weightedCnt t.targetPodResource = n := fun t ht =>
    (hw t ht).symm ▸ config.exactWeight_natCast hW (hgpu _ (List.mem_of_mem_filter (hmem t ht)))
  have hmass : (L.map fun t => config.weightedCount pods t.targetPodResource).sum =
      config.totalCount pods := by
    rw [← weightSum_eq_totalCount hW hgpu hT, ← hsc.mass_eq, TypicalPodsConfig.massOf, List.map_map]
    exact congrArg List.sum (List.map_congr_left fun t ht => by
      simp only [Function.comp, TypicalPodsConfig.weightedCount, hw t ht])
  have hcnt_le : ∀ t ∈ L, config.weightedCount pods t.targetPodResource < 2 ^ 53 := by
    intro t ht
    have hle := List.single_le_sum (fun x hx => by
      obtain ⟨u, hu, rfl⟩ := List.mem_map.mp hx
      exact mul_nonneg (Nat.cast_nonneg _) (zero_le_one.trans (config.one_le_exactWeight
        (hgpu _ (List.mem_of_mem_filter (hmem u hu)))))) _ (List.mem_map_of_mem
          (fun t => config.weightedCount pods t.targetPodResource) ht)
    rw [hmass] at hle
    linarith [show (2 : ℚ) ^ 46 < 2 ^ 53 by norm_num]
  have hvalue : ∀ t ∈ L, t.percentage = config.weightedCount pods t.targetPodResource := by
    intro t ht
    obtain ⟨n, hn⟩ := hnat t ht
    have hsum : (List.replicate (pods.count t.targetPodResource)
        (config.weightedCnt t.targetPodResource)).sum =
        config.weightedCount pods t.targetPodResource := by
      rw [List.sum_replicate, nsmul_eq_mul, TypicalPodsConfig.weightedCount, hw t ht]
    rw [hsc.value t ht, TypicalPodsConfig.floatCount,
      F64.foldl_add_eq_sum ⟨0, by simp⟩ (fun x hx => ⟨n, (List.eq_of_mem_replicate hx).trans hn⟩)
        (by rw [zero_add, hsum]; exact hcnt_le t ht), zero_add, hsum]
  refine ⟨hvalue, fun t ht => ?_, ?_, ?_⟩
  · obtain ⟨n, hn⟩ := hnat t ht
    exact ⟨pods.count t.targetPodResource * n, by
      rw [hvalue t ht, TypicalPodsConfig.weightedCount, ← hw t ht, hn]; push_cast; rfl⟩
  · rw [← hmass]; exact congrArg List.sum (List.map_congr_left hvalue)
  · have hnat' : ∀ x ∈ (pods.filter config.admits).map config.weightedCnt, ∃ n : ℕ, x = n :=
      fun x hx => by
        obtain ⟨p, hp, rfl⟩ := List.mem_map.mp hx
        rw [weightedCnt_eq_exactWeight_of_mem hW hgpu hT hp]
        exact config.exactWeight_natCast hW (hgpu p (List.mem_of_mem_filter hp))
    have hsum : ((pods.filter config.admits).map config.weightedCnt).sum = config.totalCount pods :=
      weightSum_eq_totalCount hW hgpu hT
    rw [TypicalPodsConfig.floatTotal, F64.foldl_add_eq_sum ⟨0, by simp⟩ hnat'
      (by rw [zero_add, hsum]; linarith [show (2 : ℚ) ^ 46 < 2 ^ 53 by norm_num]), zero_add, hsum]

end Exact

section ExactLoop

variable {config : TypicalPodsConfig} {pods : List PodResource} {L : TargetPodList}
  (hec : ExactCounts config pods L)
include hec

theorem ExactCounts.nonneg : ∀ t ∈ L, 0 ≤ t.percentage := fun t ht => by
  obtain ⟨n, hn⟩ := hec.natCast t ht
  rw [hn]; exact Nat.cast_nonneg n

theorem ExactCounts.total_natCast : ∃ n : ℕ, config.totalCount pods = n := by
  rw [← hec.sum_eq]
  exact exists_natCast_sum fun x hx => by
    obtain ⟨t, ht, rfl⟩ := List.mem_map.mp hx
    exact hec.natCast t ht

theorem ExactCounts.sum_take_le (k : Nat) :
    ((L.take k).map (·.percentage)).sum ≤ config.totalCount pods := by
  rw [← hec.sum_eq, List.map_take]
  exact (List.take_sublist _ _).sum_le_sum fun x hx => by
    obtain ⟨t, ht, rfl⟩ := List.mem_map.mp hx
    exact hec.nonneg t ht

theorem ExactCounts.sum_take_natCast (k : Nat) :
    ∃ n : ℕ, ((L.take k).map (·.percentage)).sum = n :=
  exists_natCast_sum fun x hx => by
    obtain ⟨t, ht, rfl⟩ := List.mem_map.mp hx
    exact hec.natCast t (List.mem_of_mem_take ht)

/-- The running sums of exact counts below `2^53` are exact. -/
theorem ExactCounts.prefixMass_eq (hT : config.totalCount pods < 2 ^ 46) (k : Nat) :
    prefixMass L k = ((L.take k).map (·.percentage)).sum := by
  have hnat : ∀ x : ℚ, x ∈ (L.take k).map (·.percentage) → ∃ n : ℕ, x = n := fun x hx => by
    obtain ⟨t, ht, rfl⟩ := List.mem_map.mp hx
    exact hec.natCast t (List.mem_of_mem_take ht)
  rw [prefixMass, F64.foldl_add_eq_sum ⟨0, by simp⟩ hnat (by
    linarith [hec.sum_take_le k, show (2 : ℚ) ^ 46 < 2 ^ 53 by norm_num]), zero_add]

/-- An integer count at most the total reaches `expectedNumPods` exactly when it reaches
`t * T / 100`: the product `t * T` is exact, and the quotient rounds by less than the
`1/100` that separates it from any integer it is not. -/
theorem ExactCounts.lt_expectedNumPods_iff (defaults : TypicalPodsDefaults)
    (hT : config.totalCount pods < 2 ^ 46)
    (ht : 0 < config.threshold defaults ∧ config.threshold defaults ≤ 100) {c : ℚ}
    (hc : ∃ n : ℕ, c = n) (hcT : c ≤ config.totalCount pods) :
    c < expectedNumPods defaults config pods ↔
      c < (config.threshold defaults : ℚ) * config.totalCount pods / 100 := by
  obtain ⟨N, hN⟩ := hec.total_natCast
  obtain ⟨n, rfl⟩ := hc
  set t := config.threshold defaults
  have hN' : (N : ℚ) < 2 ^ 46 := hN ▸ hT
  have hN'' : N < 2 ^ 46 := by exact_mod_cast hN'
  have ht' : (0 : ℚ) < t := by exact_mod_cast ht.1
  have ht'' : (t : ℚ) ≤ 100 := by exact_mod_cast ht.2
  have hx : expectedNumPods defaults config pods = F64.round ((t : ℚ) * N / 100) := by
    have h₁ : F64.ofInt t = t := F64.round_intCast (by rw [abs_of_pos ht.1]; omega)
    have htN : |t * (N : ℤ)| < 2 ^ 53 := by
      rw [abs_of_nonneg (mul_nonneg ht.1.le (Nat.cast_nonneg _))]
      have : t * (N : ℤ) ≤ 100 * N := mul_le_mul_of_nonneg_right ht.2 (Nat.cast_nonneg _)
      omega
    have h₂ : F64.round ((t : ℚ) * N) = (t : ℚ) * N := by
      exact_mod_cast F64.round_intCast htN
    rw [expectedNumPods, hec.total_eq, hN, F64.div, F64.mul, h₁, h₂]
  rw [hx, hN]
  constructor
  · intro h
    by_contra hle
    have hmono := F64.round_le_round (by positivity) (not_lt.mp hle)
    have hn : n < 2 ^ 53 := by
      have : n ≤ N := by exact_mod_cast hN ▸ hcT
      omega
    rw [F64.round_natCast hn] at hmono
    exact absurd h (not_lt.mpr hmono)
  · -- `t * N ≥ 100 n + 1`, and the rounding takes off less than `N / 2^53 < 1/100`
    intro h
    have hint : (n : ℤ) * 100 < t * N := by
      exact_mod_cast (lt_div_iff₀ (by norm_num : (0 : ℚ) < 100)).mp h
    have hint' : (n : ℚ) * 100 + 1 ≤ t * N := by
      exact_mod_cast (by omega : (n : ℤ) * 100 + 1 ≤ t * N)
    have hxN : (t : ℚ) * N ≤ 100 * N := mul_le_mul_of_nonneg_right ht'' (Nat.cast_nonneg _)
    have hlow := F64.mul_le_round (by positivity : (0 : ℚ) ≤ t * N / 100)
    linarith only [hint', hxN, hN', hlow]

/-- With exact counts, the loop's first exit in `float64` is its first exit in exact
arithmetic. -/
theorem ExactCounts.firstExit_expectedNumPods (defaults : TypicalPodsDefaults)
    (hT : config.totalCount pods < 2 ^ 46)
    (ht : 0 < config.threshold defaults ∧ config.threshold defaults ≤ 100) {s m : Nat}
    (hm : FirstExit L s ((config.threshold defaults : ℚ) * config.totalCount pods / 100) m) :
    FirstExit L s (expectedNumPods defaults config pods) m := by
  have key : ∀ k, prefixMass L k < expectedNumPods defaults config pods ↔
      prefixMass L k < (config.threshold defaults : ℚ) * config.totalCount pods / 100 :=
    fun k => by
      rw [hec.prefixMass_eq hT k]
      exact hec.lt_expectedNumPods_iff defaults hT ht (hec.sum_take_natCast k) (hec.sum_take_le k)
  exact ⟨(key _).not.mpr hm.1, fun i hi => (key _).mpr (hm.2 i hi)⟩

end ExactLoop

/-! ### The distribution -/

/-- The distribution `GetTypicalPods` is meant to return for threshold `t` and step `s`, with
`c = weightedCount` and `T = totalCount`: distinct admitted shapes, the `min(#shapes, s * m)`
of largest count for the least `m` whose shapes reach `t * T / 100`, each with its count over
the kept shapes' summed count, to within the `2^-50` two `float64` divisions can move it. -/
structure IsTypicalDistribution (config : TypicalPodsConfig) (t s : Int)
    (pods : List PodResource) (result : TargetPodList) : Prop where
  nodup : (result.map (·.targetPodResource)).Nodup
  mem : ∀ e ∈ result, e.targetPodResource ∈ pods ∧ config.admits e.targetPodResource = true
  length_least : ∃ m : Nat,
    result.length = min (pods.filter config.admits).dedup.length (s.toNat * m) ∧
    (t : ℚ) * config.totalCount pods / 100 ≤ config.keptCount pods result ∧
    ∀ m' < m, config.keptCount pods (result.take (s.toNat * m')) < t * config.totalCount pods / 100
  omitted_le : ∀ r ∈ pods, config.admits r = true → r ∉ result.map (·.targetPodResource) →
    ∀ e ∈ result, config.weightedCount pods r ≤ config.weightedCount pods e.targetPodResource
  percentage_near : ∀ e ∈ result,
    |e.percentage - config.weightedCount pods e.targetPodResource / config.keptCount pods result| ≤
      config.weightedCount pods e.targetPodResource / config.keptCount pods result / 2 ^ 50
  antitone : result.Pairwise fun a b => b.percentage ≤ a.percentage
  percentage_mem : ∀ e ∈ result, 0 < e.percentage ∧ e.percentage ≤ 1
  sum_near_one : (∃ p ∈ pods, config.admits p = true) →
    |(result.map (·.percentage)).sum - 1| ≤ 1 / 2 ^ 50
  eq_nil : (∀ p ∈ pods, config.admits p = false) → result = []

/-- Terms each within `2^-50` of their targets, relatively, sum to within `2^-50` of the
targets' sum. -/
theorem abs_sum_sub_le_of_forall {ι : Type} :
    ∀ (l : List ι) (p q : ι → ℚ), (∀ i ∈ l, |p i - q i| ≤ q i / 2 ^ 50) →
      |(l.map p).sum - (l.map q).sum| ≤ (l.map q).sum / 2 ^ 50
  | [], _, _, _ => by simp
  | i :: l, p, q, h => by
    have hi := h i (List.mem_cons_self _ _)
    have hl := abs_sum_sub_le_of_forall l p q fun j hj => h j (List.mem_cons_of_mem _ hj)
    simp only [List.map_cons, List.sum_cons]
    calc |p i + (l.map p).sum - (q i + (l.map q).sum)|
        = |(p i - q i) + ((l.map p).sum - (l.map q).sum)| := by ring_nf
      _ ≤ |p i - q i| + |(l.map p).sum - (l.map q).sum| := abs_add _ _
      _ ≤ q i / 2 ^ 50 + (l.map q).sum / 2 ^ 50 := add_le_add hi hl
      _ = (q i + (l.map q).sum) / 2 ^ 50 := by ring

theorem map_targetPodResource_typicalPrefix (total : ℚ) (L : TargetPodList) (k : Nat) :
    (typicalPrefix total L k).map (·.targetPodResource) = (L.map (·.targetPodResource)).take k := by
  unfold typicalPrefix
  split_ifs with h
  · rw [List.take_of_length_le (by simpa using h)]; simp [Function.comp_def]
  · simp [List.map_take, Function.comp_def]

theorem exists_mem_take_of_mem_typicalPrefix {total : ℚ} {L : TargetPodList} {k : Nat}
    {e : TargetPod} (he : e ∈ typicalPrefix total L k) :
    ∃ t ∈ L.take k, t.targetPodResource = e.targetPodResource := by
  have : e.targetPodResource ∈ (L.map (·.targetPodResource)).take k := by
    rw [← map_targetPodResource_typicalPrefix total]; exact List.mem_map_of_mem _ he
  rw [← List.map_take] at this
  exact List.mem_map.mp this

section Distribution

variable {config : TypicalPodsConfig} {pods : List PodResource} {L : TargetPodList}

theorem ExactCounts.keptCount_take_typicalPrefix (hec : ExactCounts config pods L) (total : ℚ)
    (k n : Nat) :
    config.keptCount pods ((typicalPrefix total L k).take n) =
      ((L.take (min n k)).map (·.percentage)).sum := by
  rw [TypicalPodsConfig.keptCount, List.map_take, map_targetPodResource_typicalPrefix,
    List.take_take, ← List.map_take, List.map_map]
  exact congrArg List.sum (List.map_congr_left fun t ht =>
    (hec.value t (List.mem_of_mem_take ht)).symm)

theorem ExactCounts.keptCount_typicalPrefix (hec : ExactCounts config pods L) (total : ℚ)
    (k : Nat) :
    config.keptCount pods (typicalPrefix total L k) = ((L.take k).map (·.percentage)).sum := by
  rw [TypicalPodsConfig.keptCount, map_targetPodResource_typicalPrefix, ← List.map_take,
    List.map_map]
  exact congrArg List.sum (List.map_congr_left fun t ht =>
    (hec.value t (List.mem_of_mem_take ht)).symm)

/-- Each kept entry, as the code divides it, is within `2^-50` of its count's share of the
kept mass, relatively, and lies in `(0, 1]`: with the whole list kept it is one division by
`total`, otherwise two, whose divisor cancels. -/
theorem ExactCounts.percentage_typicalPrefix (hec : ExactCounts config pods L)
    (hpos : ∀ t ∈ L, 0 < t.percentage) (hT : config.totalCount pods < 2 ^ 46) {k : Nat}
    {e : TargetPod} (he : e ∈ typicalPrefix (config.floatTotal pods) L k) :
    ∃ t ∈ L.take k, t.targetPodResource = e.targetPodResource ∧
      |e.percentage - t.percentage / ((L.take k).map (·.percentage)).sum| ≤
        t.percentage / ((L.take k).map (·.percentage)).sum / 2 ^ 50 ∧
      0 < e.percentage ∧ e.percentage ≤ 1 := by
  set M := ((L.take k).map (·.percentage)).sum
  have hle : ∀ t ∈ L.take k, t.percentage ≤ M := fun t ht =>
    List.single_le_sum (fun x hx => by
      obtain ⟨u, hu, rfl⟩ := List.mem_map.mp hx
      exact hec.nonneg u (List.mem_of_mem_take hu)) _ (List.mem_map_of_mem _ ht)
  have hMT : M ≤ config.totalCount pods := hec.sum_take_le k
  unfold typicalPrefix at he
  split_ifs at he with hk
  · -- the whole list, each count divided by `total` once
    obtain ⟨t, ht, rfl⟩ := List.mem_map.mp he
    have htk : t ∈ L.take k := by rwa [List.take_of_length_le hk]
    have hM : M = config.totalCount pods := by
      rw [← hec.sum_eq]; simp only [M, List.take_of_length_le hk]
    have htp := hpos t ht
    have hTpos : 0 < config.totalCount pods := htp.trans_le (hM ▸ hle t htk)
    refine ⟨t, htk, rfl, ?_, ?_, ?_⟩
    · rw [normalizeBy_percentage, hec.total_eq, hM]
      exact F64.abs_div_sub_le htp.le hTpos.le
    · exact F64.div_pos_of_pos htp (hec.total_eq ▸ hTpos)
    · rw [normalizeBy_percentage, hec.total_eq]
      exact F64.div_le_one_of_le htp.le (hM ▸ hle t htk) hTpos
  · -- a prefix, divided by `total` and then by `cumNumPods / total`
    obtain ⟨t, ht, rfl⟩ := List.mem_map.mp he
    have htp := hpos t (List.mem_of_mem_take ht)
    have hMpos : 0 < M := htp.trans_le (hle t ht)
    have hTpos : 0 < config.totalCount pods := hMpos.trans_le hMT
    have hD : 0 < F64.div M (config.totalCount pods) := F64.div_pos_of_pos hMpos hTpos
    refine ⟨t, ht, rfl, ?_, ?_, ?_⟩
    · rw [normalizeBy_percentage, normalizeBy_percentage, hec.prefixMass_eq hT, hec.total_eq]
      exact F64.abs_div_div_sub_le htp.le hMpos hTpos
    · rw [normalizeBy_percentage, normalizeBy_percentage, hec.prefixMass_eq hT, hec.total_eq]
      exact F64.div_pos_of_pos (F64.div_pos_of_pos htp hTpos) hD
    · rw [normalizeBy_percentage, normalizeBy_percentage, hec.prefixMass_eq hT, hec.total_eq]
      exact F64.div_le_one_of_le (F64.div_pos_of_pos htp hTpos).le
        (F64.div_le_div_of_le_left htp.le (hle t ht) hTpos.le) hD

/-- Rounded divisions by a common divisor keep the counts' order. -/
theorem SortedCounts.antitone_typicalPrefix (hsc : SortedCounts config pods L) {total : ℚ}
    (htotal : 0 ≤ total) (k : Nat) :
    (typicalPrefix total L k).Pairwise fun a b => b.percentage ≤ a.percentage := by
  have hmono : ∀ {a b : TargetPod}, a ∈ L → b ∈ L → b.percentage ≤ a.percentage →
      F64.div b.percentage total ≤ F64.div a.percentage total :=
    fun _ hb h => F64.div_le_div_of_le_left (hsc.nonneg _ hb) h htotal
  unfold typicalPrefix
  split_ifs
  · exact List.pairwise_map.mpr (hsc.desc.imp_of_mem hmono)
  · have hD : 0 ≤ F64.div (prefixMass L k) total :=
      F64.round_nonneg (div_nonneg (F64.foldl_add_nonneg le_rfl fun x hx => by
        obtain ⟨t, ht, rfl⟩ := List.mem_map.mp hx
        exact hsc.nonneg t (List.mem_of_mem_take ht)) htotal)
    refine List.pairwise_map.mpr ((hsc.desc.sublist (List.take_sublist _ _)).imp_of_mem
      fun ha hb h => ?_)
    have hb' := List.mem_of_mem_take hb
    exact F64.div_le_div_of_le_left (F64.round_nonneg (div_nonneg (hsc.nonneg _ hb') htotal))
      (hmono (List.mem_of_mem_take ha) hb' h) hD

/-- The prefix the loop stops at, as the code divides it, is the distribution the spec
describes. -/
theorem SortedCounts.isTypicalDistribution (hsc : SortedCounts config pods L)
    (hec : ExactCounts config pods L) (hT : config.totalCount pods < 2 ^ 46) {t s : Int}
    {m : Nat} (ht : 0 < t)
    (hm : FirstExit L s.toNat ((t : ℚ) * config.totalCount pods / 100) m) :
    IsTypicalDistribution config t s pods
      (typicalPrefix (config.floatTotal pods) L (prefixLength L s.toNat m)) := by
  set k := prefixLength L s.toNat m
  set R := typicalPrefix (config.floatTotal pods) L k
  have hk : k ≤ L.length := min_le_left _ _
  have hkept : config.keptCount pods R = ((L.take k).map (·.percentage)).sum :=
    hec.keptCount_typicalPrefix _ k
  have hreach : (t : ℚ) * config.totalCount pods / 100 ≤ ((L.take k).map (·.percentage)).sum := by
    rw [← hec.prefixMass_eq hT]; exact not_lt.mp hm.1
  have hnear : ∀ e ∈ R, |e.percentage - config.weightedCount pods e.targetPodResource /
      config.keptCount pods R| ≤ config.weightedCount pods e.targetPodResource /
        config.keptCount pods R / 2 ^ 50 := fun e he => by
    obtain ⟨u, hu, hr, hne, -⟩ := hec.percentage_typicalPrefix hsc.pos hT he
    rwa [hkept, ← hr, ← hec.value u (List.mem_of_mem_take hu)]
  refine ⟨?_, fun e he => ?_, ⟨m, ?_, hkept ▸ hreach, fun m' hm' => ?_⟩,
    fun r hr hadm hout e he => ?_, hnear,
    hsc.antitone_typicalPrefix (hec.total_eq ▸ hec.sum_eq ▸ List.sum_nonneg fun x hx => by
      obtain ⟨u, hu, rfl⟩ := List.mem_map.mp hx; exact hec.nonneg u hu) k,
    fun e he => (hec.percentage_typicalPrefix hsc.pos hT he).choose_spec.2.2.2,
    fun ⟨p, hp, hadm⟩ => ?_, fun hnone => ?_⟩
  · rw [map_targetPodResource_typicalPrefix]
    exact hsc.nodup.sublist (List.take_sublist _ _)
  · obtain ⟨u, hu, hr⟩ := exists_mem_take_of_mem_typicalPrefix he
    rw [← hr]
    exact (hsc.mem_iff _).mp (List.mem_map_of_mem _ (List.mem_of_mem_take hu))
  · have hlen := congrArg List.length (map_targetPodResource_typicalPrefix
      (config.floatTotal pods) L k)
    rw [List.length_map, List.length_take, List.length_map, min_eq_left hk] at hlen
    rw [hlen, ← hsc.length_eq]
    rfl
  · have hmin : min (s.toNat * m') k = prefixLength L s.toNat m' := by
      have := Nat.mul_le_mul_left s.toNat hm'.le
      simp only [k, prefixLength]; omega
    rw [hec.keptCount_take_typicalPrefix, hmin, ← hec.prefixMass_eq hT]
    exact hm.2 m' hm'
  · -- the omitted shape sits after the kept prefix in the sorted list
    obtain ⟨u, hu, rfl⟩ := List.mem_map.mp ((hsc.mem_iff _).mpr ⟨hr, hadm⟩)
    obtain ⟨v, hv, hve⟩ := exists_mem_take_of_mem_typicalPrefix he
    have hu' : u ∈ L.drop k := by
      rw [← List.take_append_drop k L, List.mem_append] at hu
      refine hu.resolve_left fun hu => hout ?_
      rw [map_targetPodResource_typicalPrefix, ← List.map_take]
      exact List.mem_map_of_mem _ hu
    have hdesc := hsc.desc
    rw [← List.take_append_drop k L, List.pairwise_append] at hdesc
    rw [← hve, ← hec.value u (List.mem_of_mem_drop hu'), ← hec.value v (List.mem_of_mem_take hv)]
    exact hdesc.2.2 v hv u hu'
  · -- some request is admitted, so the kept mass is positive and the shares add up to one
    obtain ⟨u, hu, -⟩ := List.mem_map.mp ((hsc.mem_iff p).mpr ⟨hp, hadm⟩)
    have hTpos : 0 < config.totalCount pods := by
      rw [← hec.sum_eq]
      exact List.sum_pos _ (fun x hx => by
        obtain ⟨w, hw, rfl⟩ := List.mem_map.mp hx; exact hsc.pos w hw)
        (by simpa using List.ne_nil_of_mem hu)
    have hMpos : 0 < config.keptCount pods R := by
      rw [hkept]
      exact lt_of_lt_of_le (div_pos (mul_pos (by exact_mod_cast ht) hTpos) (by norm_num)) hreach
    have hsum := abs_sum_sub_le_of_forall R (·.percentage)
      (fun e => config.weightedCount pods e.targetPodResource / config.keptCount pods R) hnear
    have hone : (R.map fun e => config.weightedCount pods e.targetPodResource /
        config.keptCount pods R).sum = 1 := by
      simp only [div_eq_mul_inv, List.sum_map_mul_right]
      rw [show (R.map fun e => config.weightedCount pods e.targetPodResource).sum =
        config.keptCount pods R by simp [TypicalPodsConfig.keptCount, Function.comp_def]]
      exact mul_inv_cancel₀ hMpos.ne'
    rwa [hone] at hsum
  · have : L = [] := List.eq_nil_iff_forall_not_mem.mpr fun u hu => by
      have := ((hsc.mem_iff _).mp (List.mem_map_of_mem (·.targetPodResource) hu))
      simp [hnone _ this.1] at this
    simp [R, typicalPrefix, this]

end Distribution

/-- For every workload with an integer `GpuResWeight` and a total weighted count below
`2^46`, and every config whose threshold lies in `(0, 100]` and whose step is positive,
`GetTypicalPods` stops and returns the distribution it is meant to, its percentages within
`2^-50` of the exact shares. -/
theorem getTypicalPods_distribution (defaults : TypicalPodsDefaults) (order : MapOrder)
    (config : TypicalPodsConfig) (pods : List PodResource) (hgpu : ∀ p ∈ pods, 0 ≤ p.gpuNumber)
    (hW : ∃ n : ℤ, config.gpuResWeight = n) (hT : config.totalCount pods < 2 ^ 46)
    (ht : 0 < config.threshold defaults ∧ config.threshold defaults ≤ 100)
    (hs : 1 ≤ config.step defaults) :
    ∃ fuel result, (∀ fuel', fuel ≤ fuel' →
        getTypicalPods defaults order fuel' config pods = some result) ∧
      IsTypicalDistribution config (config.threshold defaults) (config.step defaults) pods
        result := by
  set L := tgtPodList order config pods
  set s := (config.step defaults).toNat
  have hsc : SortedCounts config pods L :=
    sortTargetPodInDecreasingCount_sortedCounts (countPods_inv config pods) hgpu order
  have hec := hsc.exactCounts hW hgpu hT
  set x := (config.threshold defaults : ℚ) * config.totalCount pods / 100
  have hex : ∃ m, ¬ prefixMass L (prefixLength L s m) < x := by
    refine ⟨L.length, not_lt.mpr ?_⟩
    have hlen : prefixLength L s L.length = L.length := by
      unfold prefixLength; exact min_eq_left (Nat.le_mul_of_pos_left _ (by omega))
    have hTnn : 0 ≤ config.totalCount pods := hec.sum_eq ▸ List.sum_nonneg fun y hy => by
      obtain ⟨u, hu, rfl⟩ := List.mem_map.mp hy; exact hec.nonneg u hu
    have ht' : (config.threshold defaults : ℚ) ≤ 100 := by exact_mod_cast ht.2
    rw [hlen, hec.prefixMass_eq hT, List.take_length, hec.sum_eq]
    show (config.threshold defaults : ℚ) * config.totalCount pods / 100 ≤ config.totalCount pods
    linarith [mul_le_mul_of_nonneg_right ht' hTnn]
  obtain ⟨m, hm⟩ : ∃ m, FirstExit L s x m :=
    ⟨Nat.find hex, Nat.find_spec hex, fun i hi => not_not.mp (Nat.find_min hex hi)⟩
  exact ⟨m, _, getTypicalPods_eq defaults order config pods hs
    (hec.firstExit_expectedNumPods defaults hT ht hm),
    hsc.isTypicalDistribution hec hT ht.1 hm⟩

theorem getTypicalPods_distribution_halfThreshold :
    (∀ p ∈ [halfGpuPodA, halfGpuPodB], 0 ≤ p.gpuNumber) ∧
      (∃ n : ℤ, halfThresholdConfig.gpuResWeight = n) ∧
      halfThresholdConfig.totalCount [halfGpuPodA, halfGpuPodB] < 2 ^ 46 ∧
      (0 < halfThresholdConfig.threshold ⟨100, 1⟩ ∧ halfThresholdConfig.threshold ⟨100, 1⟩ ≤ 100) ∧
      1 ≤ halfThresholdConfig.step ⟨100, 1⟩ ∧
      ∃ fuel result, (∀ fuel', fuel ≤ fuel' → getTypicalPods ⟨100, 1⟩ insertionOrder fuel'
          halfThresholdConfig [halfGpuPodA, halfGpuPodB] = some result) ∧
        IsTypicalDistribution halfThresholdConfig (halfThresholdConfig.threshold ⟨100, 1⟩)
          (halfThresholdConfig.step ⟨100, 1⟩) [halfGpuPodA, halfGpuPodB] result := by
  have hW : ∃ n : ℤ, halfThresholdConfig.gpuResWeight = n := ⟨0, by simp [halfThresholdConfig]⟩
  have hT : halfThresholdConfig.totalCount [halfGpuPodA, halfGpuPodB] < 2 ^ 46 := by
    norm_num [TypicalPodsConfig.totalCount, TypicalPodsConfig.exactWeight,
      TypicalPodsConfig.admits, halfThresholdConfig, halfGpuPodA, halfGpuPodB]
  exact ⟨by decide, hW, hT, by decide, by decide, getTypicalPods_distribution ⟨100, 1⟩
    insertionOrder halfThresholdConfig [halfGpuPodA, halfGpuPodB] (by decide) hW hT (by decide)
    (by decide)⟩

/-! ### A fractional weight -/

/-- `GpuResWeight` 0.15, as the `float64` Go reads it, with threshold 100 and step 1. -/
def fractionalWeightConfig : TypicalPodsConfig := ⟨false, F64.round (15 / 100), 100, 1⟩

/-- With `GpuResWeight` 0.15 and threshold 100, three one-GPU requests keep the loop running
for ever, whatever the map order: each weighs `1.15000000000000002`, the three add up exactly
to `3.4499999999999997`, and `expectedNumPods = 100 * total / 100` rounds to `3.45`, one unit
in the last place above every running sum. -/
theorem getTypicalPods_fractionalWeight_eq_none (defaults : TypicalPodsDefaults)
    (order : MapOrder) (fuel : Nat) :
    getTypicalPods defaults order fuel fractionalWeightConfig (List.replicate 3 wholeGpuPod) =
      none := by
  -- `0.15` reads as `5404319552844595 / 2^55`
  have hW : F64.round (15 / 100) = 5404319552844595 / 2 ^ 55 := by
    rw [show (15 / 100 : ℚ) = ((15 : ℕ) : ℚ) / ((100 : ℕ) : ℚ) by norm_num,
      F64.round_div_nat 15 100 55 (by norm_num) (by norm_num) (by norm_num)]
    norm_num [rneDiv]
  -- the weight `1 + 1 * 0.15` rounds to `5179139571476070 / 2^52`
  have hw : fractionalWeightConfig.weightedCnt wholeGpuPod = 5179139571476070 / 2 ^ 52 := by
    have hmul : F64.mul (F64.ofInt 1) (F64.round (15 / 100)) = F64.round (15 / 100) := by
      simp [F64.mul, F64.ofInt, F64.round_round]
    have hpos : (0 : ℚ) < F64.round (15 / 100) := F64.round_pos (by norm_num)
    simp only [TypicalPodsConfig.weightedCnt, fractionalWeightConfig, wholeGpuPod]
    rw [if_pos ⟨hpos, rfl⟩, hmul, hW, F64.add,
      show (1 : ℚ) + 5404319552844595 / 2 ^ 55 = ((41433116571808563 : ℕ) : ℚ) / ((2 ^ 55 : ℕ) : ℚ)
        by norm_num,
      F64.round_div_nat 41433116571808563 (2 ^ 55) 52 (by norm_num) (by norm_num) (by norm_num)]
    norm_num [rneDiv]
  -- the count and the total are both `w + w + w`, exactly `7768709357214105 / 2^51`
  have h₂ : F64.add (5179139571476070 / 2 ^ 52) (5179139571476070 / 2 ^ 52) =
      5179139571476070 / 2 ^ 51 := by
    have := @F64.round_div_two_pow 5179139571476070 51 (by norm_num)
    push_cast at this
    rw [F64.add, show (5179139571476070 / 2 ^ 52 + 5179139571476070 / 2 ^ 52 : ℚ) =
      5179139571476070 / 2 ^ 51 by norm_num, this]
  have hT3 : F64.round (7768709357214105 / 2 ^ 51) = 7768709357214105 / 2 ^ 51 := by
    have := @F64.round_div_two_pow 7768709357214105 51 (by norm_num)
    push_cast at this
    exact this
  have h₃ : F64.add (5179139571476070 / 2 ^ 51) (5179139571476070 / 2 ^ 52) =
      7768709357214105 / 2 ^ 51 := by
    rw [F64.add, show (5179139571476070 / 2 ^ 51 + 5179139571476070 / 2 ^ 52 : ℚ) =
      7768709357214105 / 2 ^ 51 by norm_num, hT3]
  have h₀ : ∀ x : ℚ, F64.round x = x → F64.add 0 x = x := fun x hx => by
    rw [F64.add, zero_add, hx]
  have hw' : F64.round (fractionalWeightConfig.weightedCnt wholeGpuPod) =
      fractionalWeightConfig.weightedCnt wholeGpuPod := fractionalWeightConfig.round_weightedCnt _
  have h₁ : F64.add 0 (5179139571476070 / 2 ^ 52) = 5179139571476070 / 2 ^ 52 := by
    rw [← hw]; exact h₀ _ hw'
  have hadm : fractionalWeightConfig.admits wholeGpuPod = true := by decide
  have hcount : countPods fractionalWeightConfig (List.replicate 3 wholeGpuPod) =
      ([(wholeGpuPod, 7768709357214105 / 2 ^ 51)], 7768709357214105 / 2 ^ 51) := by
    simp only [countPods, List.replicate, List.foldl, countStep, hadm, if_true, addCount,
      List.map_nil, List.not_mem_nil, if_false, List.nil_append, List.map_cons,
      List.mem_singleton, if_true, hw, h₁, h₂, h₃]
  have hL : tgtPodList order fractionalWeightConfig (List.replicate 3 wholeGpuPod) =
      [⟨wholeGpuPod, 7768709357214105 / 2 ^ 51⟩] := by
    rw [tgtPodList, hcount, sortTargetPodInDecreasingCount,
      List.perm_singleton.mp (order.perm _)]
    exact List.mergeSort_of_sorted (List.pairwise_singleton _ _)
  have htotal : fractionalWeightConfig.floatTotal (List.replicate 3 wholeGpuPod) =
      7768709357214105 / 2 ^ 51 := by
    simp only [TypicalPodsConfig.floatTotal, List.replicate, List.filter, hadm, List.map_cons,
      List.map_nil, List.foldl, hw, h₁, h₂, h₃]
  -- `expectedNumPods`: `100 * total` rounds to `345`, and `345 / 100` to one unit above `total`
  have hexp : expectedNumPods defaults fractionalWeightConfig (List.replicate 3 wholeGpuPod) =
      7768709357214106 / 2 ^ 51 := by
    have h100 : F64.ofInt (fractionalWeightConfig.threshold defaults) = 100 := by
      have := @F64.round_natCast 100 (by norm_num)
      simp only [fractionalWeightConfig, TypicalPodsConfig.threshold, F64.ofInt]
      exact_mod_cast this
    rw [expectedNumPods, htotal, h100, F64.mul,
      show (100 : ℚ) * (7768709357214105 / 2 ^ 51) =
        ((776870935721410500 : ℕ) : ℚ) / ((2 ^ 51 : ℕ) : ℚ) by norm_num,
      F64.round_div_nat 776870935721410500 (2 ^ 51) 44 (by norm_num) (by norm_num) (by norm_num),
      show ((rneDiv (776870935721410500 * 2 ^ 44) (2 ^ 51) : ℕ) : ℚ) / 2 ^ 44 =
        ((345 : ℕ) : ℚ) / ((100 : ℕ) : ℚ) * 100 by norm_num [rneDiv],
      F64.div, mul_div_cancel_right₀ _ (by norm_num : (100 : ℚ) ≠ 0),
      F64.round_div_nat 345 100 51 (by norm_num) (by norm_num) (by norm_num)]
    norm_num [rneDiv]
  refine getTypicalPods_eq_none defaults order _ _ (fun k => ?_) fuel
  rw [hL, hexp]
  cases k with
  | zero => norm_num [prefixMass]
  | succ k =>
    simp only [prefixMass, List.take_succ_cons, List.take_nil, List.map_cons, List.foldl,
      F64.add, zero_add, hT3]
    norm_num

theorem getTypicalPods_fractionalWeight_diverges :
    (∀ p ∈ List.replicate 3 wholeGpuPod, 0 ≤ p.gpuNumber) ∧
      (0 < fractionalWeightConfig.threshold ⟨100, 1⟩ ∧
        fractionalWeightConfig.threshold ⟨100, 1⟩ ≤ 100) ∧
      1 ≤ fractionalWeightConfig.step ⟨100, 1⟩ ∧
      ∀ fuel, getTypicalPods ⟨100, 1⟩ insertionOrder fuel fractionalWeightConfig
        (List.replicate 3 wholeGpuPod) = none :=
  ⟨by decide, by decide, by decide, getTypicalPods_fractionalWeight_eq_none ⟨100, 1⟩ insertionOrder⟩

end KubeSchedulerSim
