/-
Module: KubeSchedulerSim.Proofs.BellmanTermination
Purpose: When `NodeGpuFragBellman` reaches a base case. The recursion is not structural: a
  typical pod that asks for no GPU millis leaves the node's GPU total as it is, and only the
  shrinking path probability ends such a descent. Two facts make it end. A pod with no GPU
  millis is never `Q3Satisfied`, so whenever the recursion goes on past the frag-ratio
  cutoff its probability is below `0.999`, and the path probability shrinks by that factor;
  a pod with GPU millis on at least one GPU lowers the integer GPU total by at least one.
  The measure is the GPU total, then the number of `0.999` factors the path probability
  can still absorb before `G * cumProb < 1`. A pod that asks for GPU millis on zero GPUs
  breaks the first fact's companion: `Sub` leaves the node as it is, the pod can be
  `Q3Satisfied`, and the recursion calls itself on the same node for ever
  (`nodeGpuFragBellman_zeroGpuPod_diverges`). With the bound of
  `KubeSchedulerSim.Proofs.BellmanBound` the two give total correctness: the call returns from
  some fuel on, with a value in `[0, G]` (`nodeGpuFragBellman_returns_bounded`).
Trusted boundary: none beyond the model.
Main exports: bellmanPods_terminates, nodeGpuFragBellman_terminates,
  nodeGpuFragBellman_returns_bounded, nodeGpuFragBellman_zeroGpuPod_diverges
-/
import KubeSchedulerSim.Proofs.BellmanBound
import Mathlib.Algebra.Order.Archimedean.Basic

namespace KubeSchedulerSim

/-- The typical pods the termination argument covers: non-negative requests, a probability
in `[0, 1]`, and GPU millis only together with at least one GPU. -/
structure TypicalPod.WellFormed (pod : TargetPod) : Prop where
  nonNeg : pod.targetPodResource.NonNeg
  percentage_nonneg : 0 ≤ pod.percentage
  percentage_le_one : pod.percentage ≤ 1
  gpuNumber_pos : 0 < pod.targetPodResource.milliGpu → 1 ≤ pod.targetPodResource.gpuNumber

/-- The loop returns once every placed pod's recursive call returns, whatever table it is
handed. -/
theorem bellmanPods_terminates {P : TargetPodList} {n : NodeResource} {g c : ℚ}
    (pods : TargetPodList)
    (hchild : ∀ pod ∈ pods, ∀ n', n.sub pod.targetPodResource = .ok n' → ∀ dp,
      ∃ fuel r, nodeGpuFragBellman P fuel n' dp (c * pod.percentage) = some r) :
    ∀ pvSum dp, ∃ fuel r, bellmanPods (nodeGpuFragBellman P fuel) n g c pods pvSum dp = some r := by
  induction pods with
  | nil => intro pvSum dp; exact ⟨0, _, rfl⟩
  | cons pod pods ih =>
    intro pvSum dp
    have ih := ih fun q hq => hchild q (List.mem_cons_of_mem _ hq)
    cases hsub : n.sub pod.targetPodResource with
    | error e =>
      obtain ⟨fuel, r, h⟩ := ih (pvSum + g * pod.percentage) dp
      exact ⟨fuel, r, by rw [bellmanPods_cons_error hsub]; exact h⟩
    | ok n' =>
      obtain ⟨f₁, ⟨v, dp₁⟩, h₁⟩ := hchild pod (List.mem_cons_self _ _) n' hsub dp
      obtain ⟨f₂, r, h₂⟩ := ih (pvSum + v * pod.percentage) dp₁
      refine ⟨max f₁ f₂, r, ?_⟩
      rw [bellmanPods_cons_ok hsub, nodeGpuFragBellman_mono_le (le_max_left _ _) h₁]
      exact bellmanPods_mono (fun _ _ _ _ => nodeGpuFragBellman_mono_le (le_max_right _ _))
        _ _ _ _ _ _ _ h₂

theorem bellmanDelta_pos : 0 < bellmanDelta := by norm_num [bellmanDelta]

/-- The path probability can absorb only finitely many `0.999` factors. -/
theorem exists_mul_bellmanDelta_pow_lt_one (x : ℚ) : ∃ k : ℕ, x * bellmanDelta ^ k < 1 := by
  rcases le_or_lt x 0 with hx | hx
  · exact ⟨0, by simp; linarith⟩
  · obtain ⟨k, hk⟩ := exists_pow_lt_of_lt_one (inv_pos.mpr hx) (by norm_num [bellmanDelta] :
      bellmanDelta < 1)
    exact ⟨k, calc x * bellmanDelta ^ k < x * x⁻¹ := mul_lt_mul_of_pos_left hk hx
      _ = 1 := mul_inv_cancel₀ hx.ne'⟩

/-- A call returns as soon as its loop does. -/
theorem bellmanCall_ne_none_of_loop {P : TargetPodList}
    {bellman : NodeResource → Memo → ℚ → Option (ℚ × Memo)}
    {n : NodeResource} {dp : Memo} {c : ℚ}
    (hloop : dp.load (n.flatten "bellman") = none → (getGpuMilliLeftTotal n : ℚ) ≠ 0 →
      1 ≤ (getGpuMilliLeftTotal n : ℚ) * c →
      (nodeGpuFragRatio n P).fragRatioSumExceptQ3 < bellmanDelta →
      bellmanPods bellman n (getGpuMilliLeftTotal n) c P 0 dp ≠ none) :
    bellmanCall P bellman n dp c ≠ none := fun h =>
  let ⟨h₀, h₁, h₂, h₃, h₄⟩ := bellmanCall_eq_none h
  hloop h₀ h₁ h₂ h₃ h₄

section Termination

variable {P : TargetPodList} (hP : ∀ pod ∈ P, TypicalPod.WellFormed pod)
include hP

/-- Termination by the measure `(G, k)`, with `G * cumProb * 0.999 ^ k < 1`. -/
theorem nodeGpuFragBellman_terminates_aux (m : Nat) :
    ∀ k : Nat, ∀ n dp c, 0 ≤ c → n.NonNeg → getGpuMilliLeftTotal n ≤ m →
      (getGpuMilliLeftTotal n : ℚ) * c * bellmanDelta ^ k < 1 →
      ∃ fuel r, nodeGpuFragBellman P fuel n dp c = some r := by
  induction m with
  | zero =>
    intro k n dp c _ hn hm _
    have hG : (getGpuMilliLeftTotal n : ℚ) = 0 := by
      have := getGpuMilliLeftTotal_nonneg hn; exact_mod_cast (show _ = (0 : Int) by omega)
    exact ⟨1, Option.ne_none_iff_exists'.mp
      (bellmanCall_ne_none_of_loop fun _ h => absurd hG h)⟩
  | succ m ihm =>
    intro k
    induction k with
    | zero =>
      intro n dp c _ _ _ hk
      exact ⟨1, Option.ne_none_iff_exists'.mp
        (bellmanCall_ne_none_of_loop fun _ _ h => absurd (by simpa using hk) (not_lt.mpr h))⟩
    | succ k ihk =>
      intro n dp c hc hn hm hk
      have hchild : ∀ pod ∈ P, ∀ n', n.sub pod.targetPodResource = .ok n' → ∀ dp,
          (nodeGpuFragRatio n P).fragRatioSumExceptQ3 < bellmanDelta →
          ∃ fuel r, nodeGpuFragBellman P fuel n' dp (c * pod.percentage) = some r := by
        intro pod hpod n' hsub dp' hratio
        have hw := hP pod hpod
        have hc' : 0 ≤ c * pod.percentage := mul_nonneg hc hw.percentage_nonneg
        have hG' := getGpuMilliLeftTotal_sub hsub
        rcases (eq_or_lt_of_le hw.nonNeg.milliGpu) with h0 | hpos
        · -- no GPU millis: same total, probability below `0.999`
          rw [← h0, zero_mul, sub_zero] at hG'
          have hp : pod.percentage ≤ bellmanDelta :=
            (le_fragRatioSumExceptQ3 hpod ⟨hw.percentage_nonneg, hw.percentage_le_one,
              getNodePodFrag_ne_q3_of_milliGpu_eq_zero h0.symm⟩).trans hratio.le
          refine ihk n' dp' _ hc' (hn.sub hsub) (hG' ▸ hm) ?_
          have hGc : 0 ≤ (getGpuMilliLeftTotal n : ℚ) * c :=
            mul_nonneg (Int.cast_nonneg.mpr (getGpuMilliLeftTotal_nonneg hn)) hc
          calc (getGpuMilliLeftTotal n' : ℚ) * (c * pod.percentage) * bellmanDelta ^ k
              = (getGpuMilliLeftTotal n : ℚ) * c * bellmanDelta ^ k * pod.percentage := by
                rw [hG']; ring
            _ ≤ (getGpuMilliLeftTotal n : ℚ) * c * bellmanDelta ^ k * bellmanDelta :=
                mul_le_mul_of_nonneg_left hp (mul_nonneg hGc (pow_nonneg bellmanDelta_pos.le k))
            _ = (getGpuMilliLeftTotal n : ℚ) * c * bellmanDelta ^ (k + 1) := by ring
            _ < 1 := hk
        · -- GPU millis on at least one GPU: the total drops by at least one
          have hnum := hw.gpuNumber_pos hpos
          obtain ⟨k', hk'⟩ := exists_mul_bellmanDelta_pow_lt_one
            ((getGpuMilliLeftTotal n' : ℚ) * (c * pod.percentage))
          refine ihm k' n' dp' _ hc' (hn.sub hsub) ?_ (by simpa [mul_assoc] using hk')
          have : pod.targetPodResource.milliGpu * max pod.targetPodResource.gpuNumber 0 ≥ 1 :=
            one_le_mul_of_one_le_of_one_le (by omega) (by omega)
          omega
      by_cases hratio : (nodeGpuFragRatio n P).fragRatioSumExceptQ3 < bellmanDelta
      · obtain ⟨fuel, r, h⟩ := @bellmanPods_terminates _ _ (getGpuMilliLeftTotal n) _ P
          (fun pod hpod n' hsub dp' => hchild pod hpod n' hsub dp' hratio) 0 dp
        exact ⟨fuel + 1, Option.ne_none_iff_exists'.mp
          (bellmanCall_ne_none_of_loop fun _ _ _ _ => by rw [h]; exact Option.some_ne_none _)⟩
      · exact ⟨1, Option.ne_none_iff_exists'.mp
          (bellmanCall_ne_none_of_loop fun _ _ _ h => absurd h hratio)⟩

/-- `NodeGpuFragBellman` reaches a base case on every node with no negative GPU, from every
table and every non-negative path probability, for typical pods with non-negative requests,
probabilities in `[0, 1]`, and GPU millis only on at least one GPU. -/
theorem nodeGpuFragBellman_terminates {n : NodeResource} {c : ℚ} (hn : n.NonNeg)
    (hc : 0 ≤ c) (dp : Memo) : ∃ fuel v dp', nodeGpuFragBellman P fuel n dp c = some (v, dp') := by
  obtain ⟨k, hk⟩ := exists_mul_bellmanDelta_pow_lt_one ((getGpuMilliLeftTotal n : ℚ) * c)
  obtain ⟨fuel, ⟨v, dp'⟩, h⟩ := nodeGpuFragBellman_terminates_aux hP (getGpuMilliLeftTotal n).toNat
    k n dp c hc hn (Int.self_le_toNat _) hk
  exact ⟨fuel, v, dp', h⟩

/-- Total correctness: for well-formed typical pods whose probabilities add up to at most
one, `NodeGpuFragBellman` on a node with no negative GPU, from a table of bounded entries
and a non-negative path probability, returns from some fuel on, and what it returns lies in
`[0, G]` and leaves a bounded table. -/
theorem nodeGpuFragBellman_returns_bounded (hsum : (P.map (·.percentage)).sum ≤ 1)
    {n : NodeResource} {c : ℚ} (hn : n.NonNeg) (hc : 0 ≤ c) {dp : Memo} (hdp : dp.Bounded) :
    ∃ fuel v dp', (∀ fuel', fuel ≤ fuel' → nodeGpuFragBellman P fuel' n dp c = some (v, dp')) ∧
      0 ≤ v ∧ v ≤ getGpuMilliLeftTotal n ∧ dp'.Bounded := by
  obtain ⟨k, hk⟩ := exists_mul_bellmanDelta_pow_lt_one ((getGpuMilliLeftTotal n : ℚ) * c)
  obtain ⟨fuel, ⟨v, dp'⟩, h⟩ := nodeGpuFragBellman_terminates_aux hP (getGpuMilliLeftTotal n).toNat
    k n dp c hc hn (Int.self_le_toNat _) hk
  obtain ⟨⟨hv₀, hv₁⟩, hdp'⟩ := nodeGpuFragBellman_bounded
    (fun pod hpod => ⟨(hP pod hpod).nonNeg.milliGpu, (hP pod hpod).percentage_nonneg⟩) hsum fuel
    n dp c v dp' hn hdp h
  exact ⟨fuel, v, dp', fun _ hf => nodeGpuFragBellman_mono_le hf h, hv₀, hv₁, hdp'⟩

end Termination

/-- A node with one idle GPU and nothing else free. -/
def idleGpuNode : NodeResource := ⟨"node", 0, 0, [1000], ""⟩

theorem nodeGpuFragBellman_returns_bounded_sharePod :
    (∀ pod ∈ [sharePod600], TypicalPod.WellFormed pod) ∧
    ([sharePod600].map (·.percentage)).sum ≤ 1 ∧ idleGpuNode.NonNeg ∧ (0 : ℚ) ≤ 1 ∧
    Memo.empty.Bounded ∧
    ∃ fuel v dp', (∀ fuel', fuel ≤ fuel' →
        nodeGpuFragBellman [sharePod600] fuel' idleGpuNode Memo.empty 1 = some (v, dp')) ∧
      0 ≤ v ∧ v ≤ getGpuMilliLeftTotal idleGpuNode ∧ dp'.Bounded := by
  have hP : ∀ pod ∈ [sharePod600], TypicalPod.WellFormed pod := by
    simp only [List.mem_singleton, forall_eq]
    exact ⟨⟨by decide, by decide, by decide⟩, by norm_num [sharePod600],
      by norm_num [sharePod600], fun _ => by decide⟩
  have hsum : ([sharePod600].map (·.percentage)).sum ≤ 1 := by simp [sharePod600]
  have hn : idleGpuNode.NonNeg := by decide
  exact ⟨hP, hsum, hn, zero_le_one, Memo.Bounded.empty, nodeGpuFragBellman_returns_bounded hP hsum
    hn zero_le_one Memo.Bounded.empty⟩

theorem nodeGpuFragBellman_terminates_sharePod :
    (∀ pod ∈ [sharePod600], TypicalPod.WellFormed pod) ∧ idleGpuNode.NonNeg ∧ (0 : ℚ) ≤ 1 ∧
    ∃ fuel v dp', nodeGpuFragBellman [sharePod600] fuel idleGpuNode Memo.empty 1 = some (v, dp') := by
  have hP : ∀ pod ∈ [sharePod600], TypicalPod.WellFormed pod := by
    simp only [List.mem_singleton, forall_eq]
    exact ⟨⟨by decide, by decide, by decide⟩, by norm_num [sharePod600],
      by norm_num [sharePod600], fun _ => by decide⟩
  have hn : idleGpuNode.NonNeg := by decide
  exact ⟨hP, hn, zero_le_one, nodeGpuFragBellman_terminates hP hn zero_le_one Memo.empty⟩

/-- A pod that asks for half a GPU on zero GPUs, the whole reference workload. -/
def zeroGpuPod : TargetPod := ⟨⟨0, 0, 500, 0, ""⟩, 1⟩

/-- On such a pod `Sub` returns the node unchanged, the pod sees the node as
`Q3Satisfied`, and the recursion calls itself on the same node and the same path
probability: no fuel is enough. -/
theorem nodeGpuFragBellman_zeroGpuPod_diverges :
    idleGpuNode.NonNeg ∧ zeroGpuPod.targetPodResource.NonNeg ∧ 0 ≤ zeroGpuPod.percentage ∧
    zeroGpuPod.percentage ≤ 1 ∧
    ∀ fuel, nodeGpuFragBellman [zeroGpuPod] fuel idleGpuNode Memo.empty 1 = none := by
  have hsub : idleGpuNode.sub zeroGpuPod.targetPodResource = .ok idleGpuNode := rfl
  have hG : getGpuMilliLeftTotal idleGpuNode = 1000 := rfl
  have hratio : (nodeGpuFragRatio idleGpuNode [zeroGpuPod]).fragRatioSumExceptQ3 = 0 := by
    have hq : getNodePodFrag idleGpuNode zeroGpuPod.targetPodResource = .q3Satisfied := rfl
    rw [nodeGpuFragRatio, fragRatioSumExceptQ3_foldl]
    simp [CountedOutsideQ3, hq, FragRatio.fragRatioSumExceptQ3, sumExceptQ3, FragType.all]
  refine ⟨by decide, ⟨by decide, by decide, by decide⟩, by norm_num [zeroGpuPod],
    by norm_num [zeroGpuPod], fun fuel => ?_⟩
  induction fuel with
  | zero => rfl
  | succ fuel ih =>
    rw [nodeGpuFragBellman_succ]
    dsimp only [bellmanCall]
    rw [Memo.load_empty]
    dsimp only
    rw [hG, hratio, bellmanPods_cons_ok hsub]
    simp [zeroGpuPod, bellmanDelta] at ih ⊢
    simp [ih]

end KubeSchedulerSim
