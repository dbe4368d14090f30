/-
Module: KubeSchedulerSim.Proofs.PwrChoice
Purpose: Which GPU the PWR plugin picks for a GPU-share request. `IsPwrBest` says what the
  loop of `calculatePWRShareFragExtendScore` is for: the first GPU, among those that can
  hold the request, of highest score. The loop keeps `PwrLoopInv` (nothing feasible seen and
  `(0, "")` kept, or the best GPU so far kept with its score and decimal name) pass by pass
  (`pwrShareStep_inv`), so over the whole node (`foldl_pwrShareStep_inv`); as a decimal
  name is never empty, `""` marks "none" exactly. `calculatePWRShareFragExtendScore_best`
  reads the result off, for the score and for the GPU `allocateGpuIdBasedOnPWRScore`
  reserves, and `PWRScorePlugin.score_mem` keeps every score the plugin returns within the
  framework's range when the sigmoid lies in `[0, 1]`.
Trusted boundary: none beyond the model.
Main exports: PwrFeasible, pwrGpuScore, IsPwrBest, PwrLoopInv, pwrShareStep_inv,
  foldl_pwrShareStep_inv, calculatePWRShareFragExtendScore_best, PWRScorePlugin.score_mem
-/
import KubeSchedulerSim.Plugin.Pwr

namespace KubeSchedulerSim

/-! ### Decimal names -/

theorem toDigitsCore_ne_nil (b : Nat) :
    ∀ (fuel n : Nat) (ds : List Char), (0 < fuel ∨ ds ≠ []) → Nat.toDigitsCore b fuel n ds ≠ []
  | 0, _, _, h => by simpa using h
  | fuel + 1, n, ds, _ => by
    show (if n / b = 0 then _
      else Nat.toDigitsCore b fuel (n / b) (Nat.digitChar (n % b) :: ds)) ≠ []
    split
    · simp
    · exact toDigitsCore_ne_nil b fuel _ _ (Or.inr (by simp))

/-- `strconv.Itoa(i)` is never the empty "none yet" marker. -/
theorem toString_ne_empty (i : Nat) : toString i ≠ "" := fun h =>
  toDigitsCore_ne_nil 10 (i + 1) i [] (Or.inl (Nat.succ_pos i)) (congrArg String.data h)

/-! ### The best GPU -/

section Best

variable (env : PwrEnv) (nodeRes : NodeResource) (podRes : PodResource)

/-- GPU `i` exists and can hold the request. -/
def PwrFeasible (i : Nat) : Prop :=
  i < nodeRes.milliGpuLeftList.length ∧ podRes.milliGpu ≤ nodeRes.milliGpuLeftList.getD i 0

/-- The score of GPU `i`: the node's energy rise when the request goes there. -/
def pwrGpuScore (i : Nat) : Int :=
  env.energyScore (env.nodeEnergy nodeRes) (env.nodeEnergy (shareOnGpu nodeRes podRes i))

/-- `i` is the first GPU below `k` of highest score among those that can hold the request. -/
def IsPwrBestBelow (k i : Nat) : Prop :=
  i < k ∧ PwrFeasible nodeRes podRes i ∧
    (∀ j < k, PwrFeasible nodeRes podRes j →
      pwrGpuScore env nodeRes podRes j ≤ pwrGpuScore env nodeRes podRes i) ∧
    ∀ j < i, PwrFeasible nodeRes podRes j →
      pwrGpuScore env nodeRes podRes j < pwrGpuScore env nodeRes podRes i

/-- The GPU the plugin is meant to pick: the first of highest score among those that can hold
the request. -/
def IsPwrBest (i : Nat) : Prop :=
  IsPwrBestBelow env nodeRes podRes nodeRes.milliGpuLeftList.length i

/-- What the loop holds after the GPUs below `k`: the marker and nothing feasible seen, or the
best GPU so far with its score. -/
def PwrLoopInv (k : Nat) (acc : Int × String) : Prop :=
  ((∀ j < k, ¬ PwrFeasible nodeRes podRes j) ∧ acc = (0, "")) ∨
    ∃ i, IsPwrBestBelow env nodeRes podRes k i ∧ acc = (pwrGpuScore env nodeRes podRes i, toString i)

variable {env nodeRes podRes}

theorem IsPwrBestBelow.unique {k i i' : Nat} (hi : IsPwrBestBelow env nodeRes podRes k i)
    (hi' : IsPwrBestBelow env nodeRes podRes k i') : i = i' := by
  rcases lt_trichotomy i i' with h | h | h
  · exact absurd (hi.2.2.1 i' hi'.1 hi'.2.1) (not_le.mpr (hi'.2.2.2 i h hi.2.1))
  · exact h
  · exact absurd (hi'.2.2.1 i hi.1 hi.2.1) (not_le.mpr (hi.2.2.2 i' h hi'.2.1))

/-- The best GPU below `k` stays the best below `k + 1` unless GPU `k` beats it. -/
theorem IsPwrBestBelow.succ {k i : Nat} (hi : IsPwrBestBelow env nodeRes podRes k i)
    (hk : PwrFeasible nodeRes podRes k →
      pwrGpuScore env nodeRes podRes k ≤ pwrGpuScore env nodeRes podRes i) :
    IsPwrBestBelow env nodeRes podRes (k + 1) i := by
  refine ⟨Nat.lt_succ_of_lt hi.1, hi.2.1, fun j hj hfj => ?_, hi.2.2.2⟩
  rcases Nat.lt_succ_iff_lt_or_eq.mp hj with hj | rfl
  · exact hi.2.2.1 j hj hfj
  · exact hk hfj

/-- GPU `k` is the best below `k + 1` when it beats every feasible GPU before it. -/
theorem isPwrBestBelow_succ_self {k : Nat} (hk : PwrFeasible nodeRes podRes k)
    (hmax : ∀ j < k, PwrFeasible nodeRes podRes j →
      pwrGpuScore env nodeRes podRes j < pwrGpuScore env nodeRes podRes k) :
    IsPwrBestBelow env nodeRes podRes (k + 1) k := by
  refine ⟨Nat.lt_succ_self k, hk, fun j hj hfj => ?_, hmax⟩
  rcases Nat.lt_succ_iff_lt_or_eq.mp hj with hj | rfl
  · exact (hmax j hj hfj).le
  · exact le_rfl

theorem pwrShareStep_eq (acc : Int × String) (k : Nat) :
    pwrShareStep env nodeRes podRes (env.nodeEnergy nodeRes) acc k =
      if podRes.milliGpu ≤ nodeRes.milliGpuLeftList.getD k 0 then
        if acc.2 == "" || pwrGpuScore env nodeRes podRes k > acc.1 then
          (pwrGpuScore env nodeRes podRes k, toString k)
        else acc
      else acc := rfl

theorem pwrLoopInv_zero : PwrLoopInv env nodeRes podRes 0 (0, "") :=
  .inl ⟨fun _ h => absurd h (Nat.not_lt_zero _), rfl⟩

/-- One pass at GPU `k` keeps the invariant. -/
theorem pwrShareStep_inv {k : Nat} {acc : Int × String}
    (hk : k < nodeRes.milliGpuLeftList.length) (h : PwrLoopInv env nodeRes podRes k acc) :
    PwrLoopInv env nodeRes podRes (k + 1)
      (pwrShareStep env nodeRes podRes (env.nodeEnergy nodeRes) acc k) := by
  rw [pwrShareStep_eq]
  split_ifs with hfeas hrep
  · -- GPU `k` is kept
    have hk' : PwrFeasible nodeRes podRes k := ⟨hk, hfeas⟩
    refine .inr ⟨k, isPwrBestBelow_succ_self hk' fun j hj hfj => ?_, rfl⟩
    rcases h with ⟨hnone, -⟩ | ⟨i, hi, rfl⟩
    · exact absurd hfj (hnone j hj)
    · have hne : (toString i == "") = false := beq_eq_false_iff_ne.mpr (toString_ne_empty i)
      simp only [hne, Bool.false_or, decide_eq_true_eq] at hrep
      exact (hi.2.2.1 j hj hfj).trans_lt hrep
  · -- GPU `k` is feasible but does not beat the kept one
    rcases h with ⟨-, rfl⟩ | ⟨i, hi, rfl⟩
    · simp at hrep
    · simp only [Bool.or_eq_true, beq_iff_eq, decide_eq_true_eq, not_or, not_lt] at hrep
      exact .inr ⟨i, hi.succ fun _ => hrep.2, rfl⟩
  · -- GPU `k` cannot hold the request
    have hnk : ¬ PwrFeasible nodeRes podRes k := fun h' => hfeas h'.2
    rcases h with ⟨hnone, hacc⟩ | ⟨i, hi, hacc⟩
    · refine .inl ⟨fun j hj => ?_, hacc⟩
      rcases Nat.lt_succ_iff_lt_or_eq.mp hj with hj | rfl
      · exact hnone j hj
      · exact hnk
    · exact .inr ⟨i, hi.succ fun h' => absurd h' hnk, hacc⟩

variable (env nodeRes podRes)

/-- The loop keeps the invariant over the first `k` GPUs. -/
theorem foldl_pwrShareStep_inv : ∀ k ≤ nodeRes.milliGpuLeftList.length,
    PwrLoopInv env nodeRes podRes k ((List.range k).foldl
      (pwrShareStep env nodeRes podRes (env.nodeEnergy nodeRes)) (0, ""))
  | 0, _ => pwrLoopInv_zero
  | k + 1, hk => by
    rw [List.range_succ, List.foldl_append, List.foldl_cons, List.foldl_nil]
    exact pwrShareStep_inv (by omega) (foldl_pwrShareStep_inv k (by omega))

end Best

/-- For a GPU-share request the plugin returns `(0, "")` exactly when no GPU can hold it, and
otherwise the first GPU of highest score with that score; `allocateGpuIdBasedOnPWRScore`
reserves that GPU. -/
theorem calculatePWRShareFragExtendScore_best (env : PwrEnv) (nodeRes : NodeResource)
    (podRes : PodResource) (typicalPods : TargetPodList)
    (hshare : podRes.gpuNumber = 1 ∧ podRes.milliGpu < milli) :
    ((calculatePWRShareFragExtendScore env nodeRes podRes typicalPods).2 = "" ∧
        (calculatePWRShareFragExtendScore env nodeRes podRes typicalPods).1 = 0 ↔
      ∀ i, ¬ PwrFeasible nodeRes podRes i) ∧
    ((∃ i, PwrFeasible nodeRes podRes i) → ∃ i, IsPwrBest env nodeRes podRes i) ∧
    ∀ i, IsPwrBest env nodeRes podRes i →
      calculatePWRShareFragExtendScore env nodeRes podRes typicalPods =
        (pwrGpuScore env nodeRes podRes i, toString i) ∧
      allocateGpuIdBasedOnPWRScore env nodeRes podRes typicalPods = toString i := by
  have hcalc : calculatePWRShareFragExtendScore env nodeRes podRes typicalPods =
      (List.range nodeRes.milliGpuLeftList.length).foldl
        (pwrShareStep env nodeRes podRes (env.nodeEnergy nodeRes)) (0, "") := by
    simp [calculatePWRShareFragExtendScore, hshare]
  have hinv := foldl_pwrShareStep_inv env nodeRes podRes _ le_rfl
  rw [← hcalc] at hinv
  unfold allocateGpuIdBasedOnPWRScore
  rcases hinv with ⟨hnone, hacc⟩ | ⟨i, hi, hacc⟩
  · have hno : ∀ i, ¬ PwrFeasible nodeRes podRes i := fun i h => hnone i h.1 h
    exact ⟨by simp [hacc, hno], fun ⟨i, hi⟩ => absurd hi (hno i),
      fun i hi => absurd hi.2.1 (hno i)⟩
  · refine ⟨?_, fun _ => ⟨i, hi⟩, fun j hj => ?_⟩
    · rw [hacc]
      simpa [toString_ne_empty] using ⟨i, hi.2.1⟩
    · obtain rfl := hi.unique hj
      rw [hacc]
      exact ⟨rfl, rfl⟩

/-- An energy model to run the plugin on: each GPU spends the millis in use, the CPU nothing,
and the sigmoid is clamped to `[0, 1]`. -/
def sampleEnv : PwrEnv where
  getEnergyConsumptionNode n := (0, (n.milliGpuLeftList.map fun m => ((milli - m : Int) : ℚ)).sum)
  sigmoid x := max 0 (min 1 (x + 1 / 2))
  allocateExclusiveGpuId _ _ := ""
  subOnError n _ := n
  nodeRepr n := n.nodeName
  podRepr _ := ""

/-- A node with one idle GPU and one with 600 millis left. -/
def packingNode : NodeResource := ⟨"node", 4000, 0, [1000, 600], ""⟩

/-- A request for 300 millis of one GPU. -/
def sharePod300 : PodResource := ⟨0, 0, 300, 1, ""⟩

theorem calculatePWRShareFragExtendScore_best_packing :
    (sharePod300.gpuNumber = 1 ∧ sharePod300.milliGpu < milli) ∧
    ((calculatePWRShareFragExtendScore sampleEnv packingNode sharePod300 []).2 = "" ∧
        (calculatePWRShareFragExtendScore sampleEnv packingNode sharePod300 []).1 = 0 ↔
      ∀ i, ¬ PwrFeasible packingNode sharePod300 i) ∧
    ((∃ i, PwrFeasible packingNode sharePod300 i) → ∃ i, IsPwrBest sampleEnv packingNode sharePod300 i) ∧
    ∀ i, IsPwrBest sampleEnv packingNode sharePod300 i →
      calculatePWRShareFragExtendScore sampleEnv packingNode sharePod300 [] =
        (pwrGpuScore sampleEnv packingNode sharePod300 i, toString i) ∧
      allocateGpuIdBasedOnPWRScore sampleEnv packingNode sharePod300 [] = toString i :=
  ⟨by decide, calculatePWRShareFragExtendScore_best sampleEnv packingNode sharePod300 []
    (by decide)⟩

/-! ### The score's range -/

theorem int64OfFloat_mem {x : ℚ} (h0 : 0 ≤ x) (h1 : x ≤ 100) :
    0 ≤ int64OfFloat x ∧ int64OfFloat x ≤ 100 := by
  unfold int64OfFloat
  rw [if_pos h0]
  exact ⟨Int.floor_nonneg.mpr h0, Int.floor_le_iff.mpr (by push_cast; linarith)⟩

theorem PwrEnv.energyScore_mem {env : PwrEnv} (hsig : ∀ x, 0 ≤ env.sigmoid x ∧ env.sigmoid x ≤ 1)
    (a b : ℚ) : 0 ≤ env.energyScore a b ∧ env.energyScore a b ≤ 100 := by
  obtain ⟨h0, h1⟩ := hsig ((a - b) / 1000)
  exact int64OfFloat_mem (by simp only [maxNodeScore]; positivity)
    (by simp only [maxNodeScore]; push_cast; linarith)

theorem calculatePWRShareFragExtendScore_mem {env : PwrEnv}
    (hsig : ∀ x, 0 ≤ env.sigmoid x ∧ env.sigmoid x ≤ 1) (nodeRes : NodeResource)
    (podRes : PodResource) (typicalPods : TargetPodList) :
    0 ≤ (calculatePWRShareFragExtendScore env nodeRes podRes typicalPods).1 ∧
      (calculatePWRShareFragExtendScore env nodeRes podRes typicalPods).1 ≤ 100 := by
  unfold calculatePWRShareFragExtendScore
  split_ifs
  · rcases foldl_pwrShareStep_inv env nodeRes podRes _ le_rfl with ⟨-, hacc⟩ | ⟨i, -, hacc⟩
    · simp [hacc]
    · rw [hacc]; exact env.energyScore_mem hsig _ _
  · exact env.energyScore_mem hsig _ _

/-- With a sigmoid into `[0, 1]`, every score the plugin returns lies between
`MinNodeScore` and `MaxNodeScore`. -/
theorem PWRScorePlugin.score_mem {env : PwrEnv} (hsig : ∀ x, 0 ≤ env.sigmoid x ∧ env.sigmoid x ≤ 1)
    (podRequestsEmpty : Bool) (nodeName : String) (nodeResPtr : Option NodeResource)
    (podRes : PodResource) (typicalPods : TargetPodList) :
    minNodeScore ≤ (PWRScorePlugin.score env podRequestsEmpty nodeName nodeResPtr podRes
        typicalPods).1 ∧
      (PWRScorePlugin.score env podRequestsEmpty nodeName nodeResPtr podRes typicalPods).1 ≤
        maxNodeScore := by
  have hrange : minNodeScore ≤ maxNodeScore := by decide
  unfold PWRScorePlugin.score
  split
  · exact ⟨hrange, le_rfl⟩
  · split
    · exact ⟨le_rfl, hrange⟩
    · split
      · exact ⟨le_rfl, hrange⟩
      · exact calculatePWRShareFragExtendScore_mem hsig _ _ _

/-- The sigmoid of `sampleEnv` is clamped to `[0, 1]`. -/
theorem sampleEnv_sigmoid_mem (x : ℚ) : 0 ≤ sampleEnv.sigmoid x ∧ sampleEnv.sigmoid x ≤ 1 :=
  ⟨le_max_left _ _, max_le zero_le_one (min_le_left _ _)⟩

theorem PWRScorePlugin.score_mem_packing :
    (∀ x, 0 ≤ sampleEnv.sigmoid x ∧ sampleEnv.sigmoid x ≤ 1) ∧
    minNodeScore ≤ (PWRScorePlugin.score sampleEnv false "node" (some packingNode) sharePod300
        []).1 ∧
      (PWRScorePlugin.score sampleEnv false "node" (some packingNode) sharePod300 []).1 ≤
        maxNodeScore :=
  ⟨sampleEnv_sigmoid_mem,
    PWRScorePlugin.score_mem sampleEnv_sigmoid_mem false "node" (some packingNode) sharePod300 []⟩

end KubeSchedulerSim
