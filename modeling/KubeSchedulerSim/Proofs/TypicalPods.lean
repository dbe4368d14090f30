/-
Module: KubeSchedulerSim.Proofs.TypicalPods
Purpose: What `GetTypicalPods` computes, rounding included. The first loop builds, for
  every admitted shape, its entry: the shape's weight added once per request in `float64`
  (`floatCount`), and `total`, the weights of the admitted requests added in order
  (`floatTotal`); the exact counts the entries stand for add up to the exact sum of those
  weights (`CountInv`). The sort lists the shapes by decreasing entry; after `j` passes of
  the outer loop the state holds the first `min(#shapes, step * j)` shapes (`stateAt`), so
  the loop returns the prefix of the first pass whose running sum reaches
  `expectedNumPods`, divided as the code divides it (`getTypicalPods_eq`), and never
  returns while no prefix reaches it (`growPrefix_eq_none`). The module ends with the two
  ways the loop misbehaves: with a threshold above 100 it never stops, for every workload
  of up to `2^40` requests (`getTypicalPods_threshold_above_100_diverges`: rounding moves
  the sums by less than the one percent the threshold asks beyond the total), and with two
  shapes of equal count the map's iteration order decides which one is kept
  (`getTypicalPods_mapOrder_dependent`).
Trusted boundary: none beyond the model.
Main exports: CountInv, countPods_inv, SortedCounts, fillPrefix_eq, stateAt,
  growPrefix_stateAt, FirstExit, typicalPrefix, getTypicalPods_eq, PrefixOf,
  growPrefix_eq_none, getTypicalPods_threshold_above_100_diverges,
  getTypicalPods_mapOrder_dependent
-/
import KubeSchedulerSim.Distill.Typical
import Mathlib.Algebra.Order.BigOperators.Group.List
import Mathlib.Algebra.BigOperators.Ring.List
import Mathlib.Data.List.Dedup

namespace KubeSchedulerSim

/-! ### The count map -/

/-- A request's weight is a `float64` value, so adding it to `0` leaves it. -/
theorem TypicalPodsConfig.round_weightedCnt (config : TypicalPodsConfig) (r : PodResource) :
    F64.round (config.weightedCnt r) = config.weightedCnt r := by
  unfold TypicalPodsConfig.weightedCnt
  split_ifs
  · exact F64.round_round _
  · exact F64.round_one

theorem TypicalPodsConfig.weightedCnt_pos (config : TypicalPodsConfig) {r : PodResource}
    (hr : 0 ≤ r.gpuNumber) : 0 < config.weightedCnt r := by
  unfold TypicalPodsConfig.weightedCnt
  split_ifs with h
  · have hg : (0 : ℚ) ≤ F64.ofInt r.gpuNumber := F64.round_nonneg (by exact_mod_cast hr)
    exact F64.round_pos
      (add_pos_of_pos_of_nonneg one_pos (F64.round_nonneg (mul_nonneg hg h.1.le)))
  · exact one_pos

/-- The entry of shape `r` after reading `l`: the shape's weight added `count r` times, each
addition rounded. -/
def TypicalPodsConfig.floatCount (config : TypicalPodsConfig) (l : List PodResource)
    (r : PodResource) : ℚ :=
  (List.replicate (l.count r) (config.weightedCnt r)).foldl F64.add 0

/-- `total` after reading `l`: the admitted requests' weights added in order, each addition
rounded. -/
def TypicalPodsConfig.floatTotal (config : TypicalPodsConfig) (l : List PodResource) : ℚ :=
  ((l.filter config.admits).map config.weightedCnt).foldl F64.add 0

/-- The exact sum of the weights `floatTotal` adds. -/
def TypicalPodsConfig.weightSum (config : TypicalPodsConfig) (l : List PodResource) : ℚ :=
  ((l.filter config.admits).map config.weightedCnt).sum

/-- The exact mass the entries of the shapes `ks` stand for: each weight times its count. -/
def TypicalPodsConfig.massOf (config : TypicalPodsConfig) (l ks : List PodResource) : ℚ :=
  (ks.map fun r => (l.count r : ℚ) * config.weightedCnt r).sum

/-- What the first loop has built after reading `l`: one entry per admitted shape, holding
its rounded count, the rounded total, and the exact mass of the entries. -/
structure CountInv (config : TypicalPodsConfig) (l : List PodResource) (acc : CountMap × ℚ) :
    Prop where
  nodup : (acc.1.map Prod.fst).Nodup
  mem_iff : ∀ r, r ∈ acc.1.map Prod.fst ↔ r ∈ l ∧ config.admits r = true
  value : ∀ e ∈ acc.1, e.2 = config.floatCount l e.1
  total_eq : acc.2 = config.floatTotal l
  mass_eq : config.massOf l (acc.1.map Prod.fst) = config.weightSum l

theorem countInv_nil (config : TypicalPodsConfig) : CountInv config [] ([], 0) :=
  ⟨List.nodup_nil, by simp, by simp, rfl, by simp [TypicalPodsConfig.massOf,
    TypicalPodsConfig.weightSum]⟩

theorem TypicalPodsConfig.floatCount_append_singleton (config : TypicalPodsConfig)
    (l : List PodResource) (r r' : PodResource) :
    config.floatCount (l ++ [r]) r' = if r' = r then
      F64.add (config.floatCount l r') (config.weightedCnt r') else config.floatCount l r' := by
  by_cases h : r' = r
  · subst h
    simp [TypicalPodsConfig.floatCount, List.replicate_succ', List.foldl_append]
  · simp [TypicalPodsConfig.floatCount, h, List.count_singleton, Ne.symm h]

theorem TypicalPodsConfig.massOf_append_singleton (config : TypicalPodsConfig)
    (l : List PodResource) (r : PodResource) (ks : List PodResource) :
    config.massOf (l ++ [r]) ks = config.massOf l ks + ks.count r * config.weightedCnt r := by
  induction ks with
  | nil => simp [TypicalPodsConfig.massOf]
  | cons k ks ih =>
    simp only [TypicalPodsConfig.massOf, List.map_cons, List.sum_cons] at ih ⊢
    rw [ih]
    by_cases h : k = r
    · subst h; simp; ring
    · simp [h, List.count_singleton, Ne.symm h]; ring

theorem TypicalPodsConfig.massOf_append (config : TypicalPodsConfig) (l ks ks' : List PodResource) :
    config.massOf l (ks ++ ks') = config.massOf l ks + config.massOf l ks' := by
  simp [TypicalPodsConfig.massOf]

theorem keys_addCount (m : CountMap) (r : PodResource) (w : ℚ) :
    (addCount m r w).map Prod.fst =
      if r ∈ m.map Prod.fst then m.map Prod.fst else m.map Prod.fst ++ [r] := by
  unfold addCount
  split_ifs
  · simp only [List.map_map]; congr 1; funext e; simp only [Function.comp]; split_ifs <;> rfl
  · simp

/-- An entry of the updated map is the updated shape or an untouched old entry. -/
theorem mem_addCount {m : CountMap} {r : PodResource} {w : ℚ} {e : PodResource × ℚ}
    (he : e ∈ addCount m r w) :
    (e.1 = r ∧ ((∃ v, (r, v) ∈ m ∧ e.2 = F64.add v w) ∨ (r ∉ m.map Prod.fst ∧ e.2 = w))) ∨
      (e.1 ≠ r ∧ e ∈ m) := by
  unfold addCount at he
  split_ifs at he with hin
  · obtain ⟨e', he', rfl⟩ := List.mem_map.mp he
    by_cases h : e'.1 = r
    · rw [if_pos h]
      exact .inl ⟨h, .inl ⟨e'.2, by rw [← h]; exact he', rfl⟩⟩
    · rw [if_neg h]
      exact .inr ⟨h, he'⟩
  · rcases List.mem_append.mp he with he | he
    · by_cases h : e.1 = r
      · exact absurd (h ▸ List.mem_map_of_mem Prod.fst he) hin
      · exact .inr ⟨h, he⟩
    · rw [List.mem_singleton] at he
      subst he
      exact .inl ⟨rfl, .inr ⟨hin, rfl⟩⟩

/-- One pass of the first loop keeps the invariant. -/
theorem countStep_inv {config : TypicalPodsConfig} {l : List PodResource} {acc : CountMap × ℚ}
    (h : CountInv config l acc) (r : PodResource) :
    CountInv config (l ++ [r]) (countStep config acc r) := by
  obtain ⟨hnd, hmem, hval, htot, hmass⟩ := h
  unfold countStep
  split_ifs with hr
  · refine ⟨?_, fun r' => ?_, fun e he => ?_, ?_, ?_⟩
    · rw [keys_addCount]
      split_ifs with hin
      · exact hnd
      · exact hnd.append (List.nodup_singleton r) (List.disjoint_singleton.2 hin)
    · rw [keys_addCount]
      by_cases h' : r' = r
      · subst h'; split_ifs with hin <;> simp [hr, hin]
      · split_ifs <;> simp [hmem, h']
    · rw [config.floatCount_append_singleton]
      rcases mem_addCount he with ⟨h₁, ⟨v, hv, h₂⟩ | ⟨hin, h₂⟩⟩ | ⟨h₁, he'⟩
      · rw [h₂, h₁, if_pos rfl, ← hval _ hv]
      · have : r ∉ l := fun hl => hin ((hmem r).mpr ⟨hl, hr⟩)
        rw [h₂, h₁, if_pos rfl, TypicalPodsConfig.floatCount, List.count_eq_zero_of_not_mem this]
        simp [F64.add, config.round_weightedCnt]
      · rw [if_neg h₁, hval e he']
    · simp [htot, TypicalPodsConfig.floatTotal, List.filter_append, hr, List.foldl_append]
    · have hw : config.weightSum (l ++ [r]) = config.weightSum l + config.weightedCnt r := by
        simp [TypicalPodsConfig.weightSum, List.filter_append, hr]
      rw [keys_addCount, config.massOf_append_singleton, hw]
      split_ifs with hin
      · rw [hmass, List.count_eq_one_of_mem hnd hin, Nat.cast_one, one_mul]
      · have : r ∉ l := fun hl => hin ((hmem r).mpr ⟨hl, hr⟩)
        rw [config.massOf_append, hmass]
        simp [TypicalPodsConfig.massOf, List.count_eq_zero_of_not_mem this,
          List.count_eq_zero_of_not_mem hin]
  · have hr' : r ∉ acc.1.map Prod.fst := fun hin => by simp [(hmem r).mp hin] at hr
    refine ⟨hnd, fun r' => ?_, fun e he => ?_, ?_, ?_⟩
    · rw [hmem]
      by_cases h' : r' = r
      · subst h'; simp [hr]
      · simp [h']
    · rw [config.floatCount_append_singleton, if_neg, hval e he]
      rintro rfl; exact hr' (List.mem_map_of_mem _ he)
    · simp [htot, TypicalPodsConfig.floatTotal, List.filter_append, hr]
    · rw [config.massOf_append_singleton, List.count_eq_zero_of_not_mem hr', hmass]
      simp [TypicalPodsConfig.weightSum, List.filter_append, hr]

/-- The first loop builds its invariant over the whole workload. -/
theorem countPods_inv (config : TypicalPodsConfig) (pods : List PodResource) :
    CountInv config pods (countPods config pods) := by
  suffices ∀ l acc, CountInv config l acc →
      CountInv config (l ++ pods) (pods.foldl (countStep config) acc) by
    simpa using this [] ([], 0) (countInv_nil config)
  induction pods with
  | nil => intro l acc h; simpa using h
  | cons r pods ih =>
    intro l acc h
    simpa using ih (l ++ [r]) _ (countStep_inv h r)

/-! ### The sorted list -/

section Weights

variable {config : TypicalPodsConfig} {pods : List PodResource}
  (hgpu : ∀ p ∈ pods, 0 ≤ p.gpuNumber)
include hgpu

theorem TypicalPodsConfig.floatCount_pos {r : PodResource} (hr : r ∈ pods) :
    0 < config.floatCount pods r := by
  have hw := config.weightedCnt_pos (hgpu r hr)
  have hn : (0 : ℚ) < pods.count r := by exact_mod_cast List.count_pos_iff.mpr hr
  refine lt_of_lt_of_le ?_ (F64.le_foldl_add le_rfl
    fun x hx => (List.eq_of_mem_replicate hx).symm ▸ hw.le)
  simp only [List.length_replicate, List.sum_replicate, zero_add, nsmul_eq_mul]
  exact mul_pos (pow_pos (by norm_num) _) (mul_pos hn hw)

/-- An entry of a workload of at most `2^40` requests exceeds its exact count by at most
`2^-12` of it. -/
theorem TypicalPodsConfig.floatCount_le (hlen : pods.length ≤ 2 ^ 40) (r : PodResource) :
    config.floatCount pods r ≤ (1 + 1 / 2 ^ 12) * (pods.count r * config.weightedCnt r) := by
  by_cases hr : r ∈ pods
  · have hw := (config.weightedCnt_pos (hgpu r hr)).le
    have h := @F64.foldl_add_le 0 le_rfl (List.replicate (pods.count r) (config.weightedCnt r))
      fun x hx => (List.eq_of_mem_replicate hx).symm ▸ hw
    simp only [List.length_replicate, List.sum_replicate, zero_add, nsmul_eq_mul] at h
    refine h.trans (mul_le_mul_of_nonneg_right
      (F64.one_add_pow_le ((List.count_le_length _ _).trans hlen)) (by positivity))
  · simp [TypicalPodsConfig.floatCount, List.count_eq_zero_of_not_mem hr]

end Weights

/-- What the second loop reads: every admitted shape once, with its entry, by decreasing
entry; the exact counts of the shapes add up to the exact weight sum. -/
structure SortedCounts (config : TypicalPodsConfig) (pods : List PodResource)
    (L : TargetPodList) : Prop where
  nodup : (L.map (·.targetPodResource)).Nodup
  mem_iff : ∀ r, r ∈ L.map (·.targetPodResource) ↔ r ∈ pods ∧ config.admits r = true
  value : ∀ t ∈ L, t.percentage = config.floatCount pods t.targetPodResource
  pos : ∀ t ∈ L, 0 < t.percentage
  desc : L.Pairwise fun a b => b.percentage ≤ a.percentage
  mass_eq : config.massOf pods (L.map (·.targetPodResource)) = config.weightSum pods

theorem sortTargetPodInDecreasingCount_sortedCounts {config : TypicalPodsConfig}
    {pods : List PodResource} {acc : CountMap × ℚ} (h : CountInv config pods acc)
    (hgpu : ∀ p ∈ pods, 0 ≤ p.gpuNumber) (order : MapOrder) :
    SortedCounts config pods (sortTargetPodInDecreasingCount order acc.1) := by
  have hperm : List.Perm (sortTargetPodInDecreasingCount order acc.1)
      (acc.1.map fun e => (⟨e.1, e.2⟩ : TargetPod)) :=
    (List.mergeSort_perm _ _).trans ((order.perm _).map _)
  have hkeys : List.Perm ((sortTargetPodInDecreasingCount order acc.1).map (·.targetPodResource))
      (acc.1.map Prod.fst) := by
    simpa [List.map_map, Function.comp_def] using hperm.map (·.targetPodResource)
  have hval : ∀ t ∈ sortTargetPodInDecreasingCount order acc.1,
      t.percentage = config.floatCount pods t.targetPodResource := by
    intro t ht
    obtain ⟨e, he, rfl⟩ := List.mem_map.mp (hperm.mem_iff.mp ht)
    exact h.value e he
  refine ⟨hkeys.nodup_iff.mpr h.nodup, fun r => hkeys.mem_iff.trans (h.mem_iff r), hval,
    fun t ht => ?_, ?_, ?_⟩
  · have hr := ((h.mem_iff _).mp (hkeys.mem_iff.mp (List.mem_map_of_mem _ ht))).1
    rw [hval t ht]
    exact TypicalPodsConfig.floatCount_pos hgpu hr
  · refine (List.sorted_mergeSort (fun a b c h₁ h₂ => ?_) (fun a b => ?_) _).imp
      fun hab => of_decide_eq_true hab
    · simp only [decide_eq_true_eq] at h₁ h₂ ⊢; exact h₂.trans h₁
    · simpa only [Bool.or_eq_true, decide_eq_true_eq] using le_total _ _
  · rw [TypicalPodsConfig.massOf, (hkeys.map _).sum_eq]
    exact h.mass_eq

theorem SortedCounts.length_eq {config : TypicalPodsConfig} {pods : List PodResource}
    {L : TargetPodList} (h : SortedCounts config pods L) :
    L.length = (pods.filter config.admits).dedup.length := by
  have : List.Perm (L.map (·.targetPodResource)) (pods.filter config.admits).dedup :=
    (List.perm_ext_iff_of_nodup h.nodup (List.nodup_dedup _)).mpr fun r => by
      rw [h.mem_iff, List.mem_dedup, List.mem_filter]
  simpa using this.length_eq

theorem SortedCounts.length_le {config : TypicalPodsConfig} {pods : List PodResource}
    {L : TargetPodList} (h : SortedCounts config pods L) : L.length ≤ pods.length := by
  rw [h.length_eq]
  exact ((List.dedup_sublist _).trans (List.filter_sublist _)).length_le

theorem SortedCounts.nonneg {config : TypicalPodsConfig} {pods : List PodResource}
    {L : TargetPodList} (h : SortedCounts config pods L) : ∀ t ∈ L, 0 ≤ t.percentage :=
  fun t ht => (h.pos t ht).le

/-! ### The second loop -/

/-- Dividing an entry's count in `float64`, as both normalisations of `GetTypicalPods` do. -/
def normalizeBy (x : ℚ) (t : TargetPod) : TargetPod :=
  { t with percentage := F64.div t.percentage x }

@[simp] theorem normalizeBy_targetPodResource (x : ℚ) (t : TargetPod) :
    (normalizeBy x t).targetPodResource = t.targetPodResource := rfl

@[simp] theorem normalizeBy_percentage (x : ℚ) (t : TargetPod) :
    (normalizeBy x t).percentage = F64.div t.percentage x := rfl

/-- `cumNumPods` once the first `k` entries are moved: their counts added in order, each
addition rounded. -/
def prefixMass (L : TargetPodList) (k : Nat) : ℚ :=
  ((L.take k).map (·.percentage)).foldl F64.add 0

theorem prefixMass_add (L : TargetPodList) (k k' : Nat) :
    (((L.drop k).take k').map (·.percentage)).foldl F64.add (prefixMass L k) =
      prefixMass L (k + k') := by
  simp only [prefixMass, List.take_add, List.map_append, List.foldl_append]

/-- The inner loop moves the first `min(#rest, podResNum - i)` entries, divided by `total`,
and adds their counts to `cumNumPods`. -/
theorem fillPrefix_eq (total : ℚ) (podResNum : Int) :
    ∀ (rest done : TargetPodList) (cumNumPods : ℚ),
    fillPrefix total podResNum done rest cumNumPods =
      (done ++ (rest.take (min rest.length (podResNum - done.length).toNat)).map (normalizeBy total),
        rest.drop (min rest.length (podResNum - done.length).toNat),
        ((rest.take (min rest.length (podResNum - done.length).toNat)).map (·.percentage)).foldl
          F64.add cumNumPods)
  | [], done, cumNumPods => by simp [fillPrefix]
  | t :: rest, done, cumNumPods => by
    rw [fillPrefix]
    split_ifs with h
    · rw [fillPrefix_eq total podResNum rest]
      have hk : min (rest.length + 1) (podResNum - done.length).toNat =
          min rest.length (podResNum - (done ++ [normalizeBy total t]).length).toNat + 1 := by
        simp only [List.length_append, List.length_singleton]; omega
      simp only [List.length_cons, hk, List.take_succ_cons, List.drop_succ_cons, List.map_cons,
        List.foldl_cons, List.append_assoc, List.singleton_append]
      rfl
    · have hk : (podResNum - done.length).toNat = 0 := by omega
      simp [hk]

/-- Run on a state holding the first `k` entries, the inner loop moves the next ones, up to
`podResNum` of them in all. -/
theorem fillPrefix_take_drop (total : ℚ) (podResNum : Int) (L : TargetPodList) {k : Nat}
    (hk : k ≤ L.length) :
    fillPrefix total podResNum ((L.take k).map (normalizeBy total)) (L.drop k) (prefixMass L k) =
      ((L.take (k + min (L.length - k) (podResNum - k).toNat)).map (normalizeBy total),
        L.drop (k + min (L.length - k) (podResNum - k).toNat),
        prefixMass L (k + min (L.length - k) (podResNum - k).toNat)) := by
  have hlen : ((L.take k).map (normalizeBy total)).length = k := by simp [hk]
  rw [fillPrefix_eq, hlen, List.length_drop, ← List.map_append, ← List.take_add, List.drop_drop,
    prefixMass_add]

/-- How many entries `j` passes of `step` have moved. -/
def prefixLength (L : TargetPodList) (step j : Nat) : Nat :=
  min L.length (step * j)

/-- The state after `j` passes of the outer loop. -/
def stateAt (total : ℚ) (step : Nat) (L : TargetPodList) (j : Nat) : PrefixState :=
  ⟨(L.take (prefixLength L step j)).map (normalizeBy total), L.drop (prefixLength L step j),
    (step * j : Nat), prefixMass L (prefixLength L step j)⟩

@[simp] theorem stateAt_cumNumPods (total : ℚ) (step : Nat) (L : TargetPodList) (j : Nat) :
    (stateAt total step L j).cumNumPods = prefixMass L (prefixLength L step j) := rfl

theorem stateAt_zero (total : ℚ) (step : Nat) (L : TargetPodList) :
    stateAt total step L 0 = ⟨[], L, 0, 0⟩ := by
  simp [stateAt, prefixLength, prefixMass]

/-- One pass of the outer loop is `j ↦ j + 1`. -/
theorem prefixStep_stateAt (total : ℚ) (step : Nat) (L : TargetPodList) (j : Nat) :
    prefixStep total step (stateAt total step L j) = stateAt total step L (j + 1) := by
  have hk : prefixLength L step j + min (L.length - prefixLength L step j)
      ((step * j : Nat) + (step : Int) - (prefixLength L step j : Int)).toNat =
      prefixLength L step (j + 1) := by
    unfold prefixLength; rw [Nat.mul_succ]; omega
  simp only [prefixStep, stateAt]
  rw [fillPrefix_take_drop _ _ _ (show prefixLength L step j ≤ L.length from min_le_left _ _), hk,
    Nat.mul_succ, Nat.cast_add]

/-- The outer loop runs from pass `j` to the first pass `j'` that reaches `expectedNumPods`,
given fuel for the passes in between. -/
theorem growPrefix_stateAt (total expectedNumPods : ℚ) (step : Nat) (L : TargetPodList) :
    ∀ (fuel j j' : Nat), j ≤ j' → j' ≤ j + fuel →
      (∀ i, j ≤ i → i < j' → prefixMass L (prefixLength L step i) < expectedNumPods) →
      ¬ prefixMass L (prefixLength L step j') < expectedNumPods →
      growPrefix total expectedNumPods step fuel (stateAt total step L j) =
        some (stateAt total step L j')
  | 0, j, j', hj, hj', _, hstop => by
    obtain rfl : j = j' := by omega
    simp [growPrefix, hstop]
  | fuel + 1, j, j', hj, hj', hrun, hstop => by
    rcases Nat.eq_or_lt_of_le hj with rfl | hlt
    · simp [growPrefix, hstop]
    · rw [growPrefix, stateAt_cumNumPods, if_pos (hrun j le_rfl hlt), prefixStep_stateAt]
      exact growPrefix_stateAt total expectedNumPods step L fuel (j + 1) j' hlt (by omega)
        (fun i hi hi' => hrun i (by omega) hi') hstop

/-! ### What comes out -/

/-- `tgtPodList`: the sorted list the second half of `GetTypicalPods` works on. -/
def tgtPodList (order : MapOrder) (config : TypicalPodsConfig) (allPods : List PodResource) :
    TargetPodList :=
  sortTargetPodInDecreasingCount order (countPods config allPods).1

/-- `expectedNumPods`, as `float64` computes it from the threshold and `total`. -/
def expectedNumPods (defaults : TypicalPodsDefaults) (config : TypicalPodsConfig)
    (allPods : List PodResource) : ℚ :=
  F64.div (F64.mul (F64.ofInt (config.threshold defaults)) (config.floatTotal allPods)) 100

/-- `m` is the first pass of the outer loop whose prefix reaches `expected`. -/
def FirstExit (L : TargetPodList) (step : Nat) (expected : ℚ) (m : Nat) : Prop :=
  ¬ prefixMass L (prefixLength L step m) < expected ∧
    ∀ i < m, prefixMass L (prefixLength L step i) < expected

/-- What `GetTypicalPods` returns once the loop has moved `k` entries: the whole list divided
by `total`, or the first `k` entries divided by `total` and then by `cumNumPods / total`. -/
def typicalPrefix (total : ℚ) (L : TargetPodList) (k : Nat) : TargetPodList :=
  if L.length ≤ k then L.map (normalizeBy total)
  else (L.take k).map fun t => normalizeBy (F64.div (prefixMass L k) total) (normalizeBy total t)

/-- With a positive step, `GetTypicalPods` stops at the first pass whose prefix reaches
`expectedNumPods`, and from that fuel on returns that prefix as the code divides it. -/
theorem getTypicalPods_eq (defaults : TypicalPodsDefaults) (order : MapOrder)
    (config : TypicalPodsConfig) (pods : List PodResource) (hs : 1 ≤ config.step defaults)
    {m : Nat} (hm : FirstExit (tgtPodList order config pods) (config.step defaults).toNat
      (expectedNumPods defaults config pods) m) (fuel : Nat) (hfuel : m ≤ fuel) :
    getTypicalPods defaults order fuel config pods =
      some (typicalPrefix (config.floatTotal pods) (tgtPodList order config pods)
        (prefixLength (tgtPodList order config pods) (config.step defaults).toNat m)) := by
  set L := tgtPodList order config pods
  set s := (config.step defaults).toNat
  have hinv := countPods_inv config pods
  have hs' : ((s : Nat) : Int) = config.step defaults := Int.toNat_of_nonneg (by omega)
  have hrun := growPrefix_stateAt (countPods config pods).2 (expectedNumPods defaults config pods)
    s L fuel 0 _ (Nat.zero_le _) (by omega) (fun i _ hi => hm.2 i hi) hm.1
  unfold expectedNumPods at hrun
  rw [stateAt_zero, hs'] at hrun
  unfold getTypicalPods
  split
  next cm T heq =>
  have hTeq : T = config.floatTotal pods := by rw [← hinv.total_eq, heq]
  have hL : sortTargetPodInDecreasingCount order cm = L := by simp only [L, tgtPodList, heq]
  rw [← hTeq, heq] at hrun
  have hk : prefixLength L s m ≤ L.length := min_le_left _ _
  have hdone : ((L.take (prefixLength L s m)).map (normalizeBy T)).length = prefixLength L s m := by
    rw [List.length_map, List.length_take, min_eq_left hk]
  simp only [hL, hrun, Option.map_some', stateAt, hdone, typicalPrefix, ← hTeq]
  split_ifs with h
  · rw [le_antisymm hk h, List.take_length, List.drop_length, List.append_nil]
  · simp only [List.map_map]; rfl

/-- A loop state that holds the first `k` entries of `L`, moved and divided by `total`, the
others still to come, and their running sum. -/
def PrefixOf (total : ℚ) (L : TargetPodList) (s : PrefixState) : Prop :=
  ∃ k ≤ L.length, s.done = (L.take k).map (normalizeBy total) ∧ s.rest = L.drop k ∧
    s.cumNumPods = prefixMass L k

theorem prefixOf_init (total : ℚ) (L : TargetPodList) : PrefixOf total L ⟨[], L, 0, 0⟩ :=
  ⟨0, Nat.zero_le _, rfl, rfl, by simp [prefixMass]⟩

/-- Whatever the step, even one that is not positive, a pass keeps a prefix. -/
theorem prefixStep_prefixOf {total : ℚ} {L : TargetPodList} {s : PrefixState} (step : Int)
    (h : PrefixOf total L s) : PrefixOf total L (prefixStep total step s) := by
  obtain ⟨k, hk, hdone, hrest, hcum⟩ := h
  simp only [prefixStep, hdone, hrest, hcum, fillPrefix_take_drop _ _ _ hk]
  exact ⟨_, by omega, rfl, rfl, rfl⟩

/-- While no prefix of the list reaches `expectedNumPods`, the outer loop never stops. -/
theorem growPrefix_eq_none {total expected : ℚ} {L : TargetPodList} (step : Int)
    (hlt : ∀ k, prefixMass L k < expected) :
    ∀ fuel s, PrefixOf total L s → growPrefix total expected step fuel s = none
  | fuel, s, h => by
    have hcum : s.cumNumPods < expected := by
      obtain ⟨k, -, -, -, hcum⟩ := h
      exact hcum ▸ hlt k
    cases fuel with
    | zero => simp [growPrefix, hcum]
    | succ fuel =>
      rw [growPrefix, if_pos hcum]
      exact growPrefix_eq_none step hlt fuel _ (prefixStep_prefixOf step h)

/-- `GetTypicalPods` returns nothing, whatever the fuel, while no prefix of `tgtPodList`
reaches `expectedNumPods`. -/
theorem getTypicalPods_eq_none (defaults : TypicalPodsDefaults) (order : MapOrder)
    (config : TypicalPodsConfig) (pods : List PodResource)
    (hlt : ∀ k, prefixMass (tgtPodList order config pods) k < expectedNumPods defaults config pods)
    (fuel : Nat) : getTypicalPods defaults order fuel config pods = none := by
  have hinv := countPods_inv config pods
  unfold getTypicalPods
  split
  next cm T heq =>
  have hTeq : T = config.floatTotal pods := by rw [← hinv.total_eq, heq]
  have hL : sortTargetPodInDecreasingCount order cm = tgtPodList order config pods := by
    simp only [tgtPodList, heq]
  have h := growPrefix_eq_none (config.step defaults) hlt fuel _
    (prefixOf_init (config.floatTotal pods) (tgtPodList order config pods))
  unfold expectedNumPods at h
  simp only [hL, hTeq, h]
  rfl

/-! ### A threshold above 100 -/

section Above100

variable {config : TypicalPodsConfig} {pods : List PodResource} {L : TargetPodList}

/-- A running sum of the list holds at most `(1 + 2^-12)^2` times the exact weight sum, for a
workload of at most `2^40` requests: one factor for the entries, one for the sum. -/
theorem SortedCounts.prefixMass_le (hsc : SortedCounts config pods L)
    (hgpu : ∀ p ∈ pods, 0 ≤ p.gpuNumber) (hlen : pods.length ≤ 2 ^ 40) (k : Nat) :
    prefixMass L k ≤ (1 + 1 / 2 ^ 12) * ((1 + 1 / 2 ^ 12) * config.weightSum pods) := by
  have hnn : ∀ x ∈ (L.take k).map (·.percentage), 0 ≤ x := fun x hx => by
    obtain ⟨t, ht, rfl⟩ := List.mem_map.mp hx
    exact hsc.nonneg t (List.mem_of_mem_take ht)
  have hpre : ((L.take k).map (·.percentage)).sum ≤ (L.map (·.percentage)).sum := by
    rw [List.map_take]
    exact (List.take_sublist _ _).sum_le_sum fun x hx => by
      obtain ⟨t, ht, rfl⟩ := List.mem_map.mp hx
      exact hsc.nonneg t ht
  have hent : (L.map (·.percentage)).sum ≤ (1 + 1 / 2 ^ 12) * config.weightSum pods := by
    rw [← hsc.mass_eq, TypicalPodsConfig.massOf, List.map_map, ← List.sum_map_mul_left]
    exact List.sum_le_sum fun t ht => by
      rw [hsc.value t ht]; exact TypicalPodsConfig.floatCount_le hgpu hlen _
  have hpow : (1 + 1 / 2 ^ 53 : ℚ) ^ ((L.take k).map (·.percentage)).length ≤ 1 + 1 / 2 ^ 12 :=
    F64.one_add_pow_le (by
      rw [List.length_map, List.length_take]; exact (min_le_right _ _).trans (hsc.length_le.trans hlen))
  calc prefixMass L k
      ≤ (1 + 1 / 2 ^ 53) ^ ((L.take k).map (·.percentage)).length *
          (0 + ((L.take k).map (·.percentage)).sum) := F64.foldl_add_le le_rfl hnn
    _ ≤ (1 + 1 / 2 ^ 12) * (L.map (·.percentage)).sum := by
        rw [zero_add]
        exact mul_le_mul hpow hpre (List.sum_nonneg hnn) (by norm_num)
    _ ≤ _ := mul_le_mul_of_nonneg_left hent (by norm_num)

/-- `expectedNumPods` is at least `(1 - 2^-53)^3 * t / 100` times the rounded total. -/
theorem expectedNumPods_ge (defaults : TypicalPodsDefaults) (ht : 0 ≤ config.threshold defaults)
    (hT : 0 ≤ config.floatTotal pods) :
    (1 - 1 / 2 ^ 53) ^ 3 * ((config.threshold defaults : ℚ) * config.floatTotal pods / 100) ≤
      expectedNumPods defaults config pods := by
  have he : (0 : ℚ) ≤ 1 - 1 / 2 ^ 53 := by norm_num
  have ht' : (0 : ℚ) ≤ config.threshold defaults := Int.cast_nonneg.mpr ht
  -- one factor `1 - 2^-53` for each of the three roundings
  have h₁ := F64.mul_le_round ht'
  have hr₁ := F64.round_nonneg ht'
  have h₂ := F64.mul_le_round (mul_nonneg hr₁ hT)
  have h₃ := F64.mul_le_round (div_nonneg (F64.round_nonneg (mul_nonneg hr₁ hT))
    (by norm_num : (0 : ℚ) ≤ 100))
  have h₁₂ := (mul_le_mul_of_nonneg_right (mul_le_mul_of_nonneg_right h₁ hT) he).trans h₂
  calc (1 - 1 / 2 ^ 53) ^ 3 * ((config.threshold defaults : ℚ) * config.floatTotal pods / 100)
      = (config.threshold defaults : ℚ) * (1 - 1 / 2 ^ 53) * config.floatTotal pods *
          (1 - 1 / 2 ^ 53) / 100 * (1 - 1 / 2 ^ 53) := by ring
    _ ≤ F64.round (F64.round (config.threshold defaults : ℚ) * config.floatTotal pods) / 100 *
          (1 - 1 / 2 ^ 53) :=
        mul_le_mul_of_nonneg_right (div_le_div_of_nonneg_right h₁₂ (by norm_num)) he
    _ ≤ _ := h₃

end Above100

/-- With a threshold above 100 and any admitted request, the outer loop of `GetTypicalPods`
never stops on a workload of at most `2^40` requests: every running sum stays within
`2^-11` of the exact weight sum, and `expectedNumPods` within `2^-12` of at least `1.01` times
it. -/
theorem getTypicalPods_threshold_above_100_diverges (defaults : TypicalPodsDefaults)
    (order : MapOrder) (config : TypicalPodsConfig) (pods : List PodResource)
    (hgpu : ∀ p ∈ pods, 0 ≤ p.gpuNumber) (hlen : pods.length ≤ 2 ^ 40)
    (ht : 100 < config.threshold defaults) (hadm : ∃ p ∈ pods, config.admits p = true) :
    ∀ fuel, getTypicalPods defaults order fuel config pods = none := by
  have hsc : SortedCounts config pods (tgtPodList order config pods) :=
    sortTargetPodInDecreasingCount_sortedCounts (countPods_inv config pods) hgpu order
  set S := config.weightSum pods
  have hwpos : ∀ x ∈ (pods.filter config.admits).map config.weightedCnt, 0 < x := fun x hx => by
    obtain ⟨p, hp, rfl⟩ := List.mem_map.mp hx
    exact config.weightedCnt_pos (hgpu p (List.mem_of_mem_filter hp))
  have hwnn : ∀ x ∈ (pods.filter config.admits).map config.weightedCnt, 0 ≤ x :=
    fun x hx => (hwpos x hx).le
  have hS : 0 < S := by
    obtain ⟨p, hp, hp'⟩ := hadm
    refine List.sum_pos _ hwpos ?_
    simp only [ne_eq, List.map_eq_nil_iff, List.filter_eq_nil_iff, not_forall, not_not]
    exact ⟨p, hp, hp'⟩
  have hT : (1 - 1 / 2 ^ 13) * S ≤ config.floatTotal pods := by
    have h := F64.le_foldl_add le_rfl hwnn
    rw [zero_add] at h
    refine le_trans (mul_le_mul_of_nonneg_right (F64.one_sub_le_pow ?_) hS.le) h
    exact (List.length_map _ _).trans_le ((List.filter_sublist _).length_le.trans hlen)
  have ht' : (101 : ℚ) ≤ config.threshold defaults := by exact_mod_cast ht
  have hexp := expectedNumPods_ge defaults (by omega)
    ((mul_nonneg (by norm_num) hS.le).trans hT)
  intro fuel
  refine getTypicalPods_eq_none defaults order config pods (fun k => ?_) fuel
  have hkey : (1 + 1 / 2 ^ 12 : ℚ) * (1 + 1 / 2 ^ 12) <
      (1 - 1 / 2 ^ 53) ^ 3 * (101 / 100 * (1 - 1 / 2 ^ 13)) := by norm_num
  calc prefixMass (tgtPodList order config pods) k
      ≤ (1 + 1 / 2 ^ 12) * ((1 + 1 / 2 ^ 12) * S) := hsc.prefixMass_le hgpu hlen k
    _ < (1 - 1 / 2 ^ 53) ^ 3 * (101 / 100 * (1 - 1 / 2 ^ 13)) * S := by
        rw [← mul_assoc]; exact mul_lt_mul_of_pos_right hkey hS
    _ ≤ (1 - 1 / 2 ^ 53) ^ 3 *
          ((config.threshold defaults : ℚ) * config.floatTotal pods / 100) := by
        rw [mul_assoc]
        refine mul_le_mul_of_nonneg_left ?_ (by norm_num)
        have h := mul_le_mul ht' hT (mul_nonneg (by norm_num) hS.le) (by linarith only [ht'])
        linarith only [h]
    _ ≤ expectedNumPods defaults config pods := hexp

/-- `range` over the map in the order its keys were first written. -/
def insertionOrder : MapOrder := ⟨id, List.Perm.refl⟩

/-- `range` over the map in the reverse of that order. -/
def reversedOrder : MapOrder := ⟨List.reverse, List.reverse_perm⟩

/-- One request for a whole GPU. -/
def wholeGpuPod : PodResource := ⟨0, 0, 1000, 1, ""⟩

/-- Ask for 200 percent of the GPU workload, one shape per pass. -/
def doubleThresholdConfig : TypicalPodsConfig := ⟨false, 0, 200, 1⟩

theorem getTypicalPods_threshold_above_100_diverges_wholeGpu :
    (∀ p ∈ [wholeGpuPod], 0 ≤ p.gpuNumber) ∧ [wholeGpuPod].length ≤ 2 ^ 40 ∧
      100 < doubleThresholdConfig.threshold ⟨100, 1⟩ ∧
      (∃ p ∈ [wholeGpuPod], doubleThresholdConfig.admits p = true) ∧
      ∀ fuel, getTypicalPods ⟨100, 1⟩ insertionOrder fuel doubleThresholdConfig [wholeGpuPod] = none :=
  ⟨by decide, by decide, by decide, ⟨wholeGpuPod, List.mem_singleton_self _, by decide⟩,
    getTypicalPods_threshold_above_100_diverges ⟨100, 1⟩ insertionOrder doubleThresholdConfig
      [wholeGpuPod] (by decide) (by decide) (by decide)
      ⟨wholeGpuPod, List.mem_singleton_self _, by decide⟩⟩

/-! ### Equal counts -/

/-- A request for half a GPU and one core. -/
def halfGpuPodA : PodResource := ⟨1000, 0, 500, 1, ""⟩

/-- A request for half a GPU and two cores. -/
def halfGpuPodB : PodResource := ⟨2000, 0, 500, 1, ""⟩

/-- Keep half of the GPU workload, one shape per pass. -/
def halfThresholdConfig : TypicalPodsConfig := ⟨false, 0, 50, 1⟩

/-- A state that has reached `expectedNumPods` is returned whatever the fuel. -/
theorem growPrefix_of_not_lt {total expected : ℚ} {step : Int} {s : PrefixState}
    (h : ¬ s.cumNumPods < expected) (fuel : Nat) :
    growPrefix total expected step fuel s = some s := by
  cases fuel <;> simp [growPrefix, h]

/-- Two shapes of equal count and a threshold that keeps one: which one is kept is decided
by the order `range` visits the count map in. -/
theorem getTypicalPods_mapOrder_dependent (defaults : TypicalPodsDefaults) (fuel : Nat) :
    getTypicalPods defaults insertionOrder (fuel + 1) halfThresholdConfig
        [halfGpuPodA, halfGpuPodB] = some [⟨halfGpuPodA, 1⟩] ∧
      getTypicalPods defaults reversedOrder (fuel + 1) halfThresholdConfig
        [halfGpuPodA, halfGpuPodB] = some [⟨halfGpuPodB, 1⟩] := by
  have h2 : F64.round 2 = 2 := by exact_mod_cast F64.round_natCast (n := 2) (by norm_num)
  have h50 : F64.round 50 = 50 := by exact_mod_cast F64.round_natCast (n := 50) (by norm_num)
  have h100 : F64.round 100 = 100 := by exact_mod_cast F64.round_natCast (n := 100) (by norm_num)
  have hhalf : F64.round (1 / 2) ≠ 0 := (F64.round_pos (by norm_num)).ne'
  have hcount : countPods halfThresholdConfig [halfGpuPodA, halfGpuPodB] =
      ([(halfGpuPodA, 1), (halfGpuPodB, 1)], 2) := by
    simp [countPods, countStep, addCount, TypicalPodsConfig.admits, TypicalPodsConfig.weightedCnt,
      halfThresholdConfig, halfGpuPodA, halfGpuPodB, F64.add]
    norm_num [h2]
  have hsortA : sortTargetPodInDecreasingCount insertionOrder [(halfGpuPodA, 1), (halfGpuPodB, 1)] =
      [⟨halfGpuPodA, 1⟩, ⟨halfGpuPodB, 1⟩] :=
    List.mergeSort_of_sorted (by simp [insertionOrder])
  have hsortB : sortTargetPodInDecreasingCount reversedOrder [(halfGpuPodA, 1), (halfGpuPodB, 1)] =
      [⟨halfGpuPodB, 1⟩, ⟨halfGpuPodA, 1⟩] :=
    List.mergeSort_of_sorted (by simp [reversedOrder])
  constructor
  all_goals
    simp only [getTypicalPods, hcount, hsortA, hsortB]
    norm_num [halfThresholdConfig, TypicalPodsConfig.threshold, TypicalPodsConfig.step, growPrefix,
      prefixStep, fillPrefix, growPrefix_of_not_lt, F64.div, F64.mul, F64.add, F64.ofInt, h50, h100,
      hhalf]

end KubeSchedulerSim
