/-
Module: KubeSchedulerSim.Proofs.BellmanBound
Purpose: The Bellman value of a node never leaves `[0, G]`, with `G` the node's free GPU
  millis, which is what lets FGD normalise by `G`. The bound is an invariant of the shared
  table: if every value already stored lies in `[0, G]` of its key, then a call returns a
  value in `[0, G]` of its node and stores only such values. The proof follows the
  recursion: one lemma for the loop over the typical pods (`bellmanPods_bounded`), one for
  a call given a bounded recursive call (`bellmanCall_bounded`), and an induction on fuel;
  the invariant then holds for every table a sequence of calls leaves behind.
Trusted boundary: none beyond the model.
Main exports: Memo.Bounded, BellmanHistory, nodeGpuFragBellman_bounded,
  nodeGpuFragBellman_le_gpuMilliLeftTotal
-/
import KubeSchedulerSim.Frag.Bellman

namespace KubeSchedulerSim

/-- Every value in the table lies between zero and the GPU total of its key. -/
def Memo.Bounded (dp : Memo) : Prop :=
  ∀ k v, dp.load k = some v → 0 ≤ v ∧ v ≤ k.gpuMilliLeftTotal

theorem Memo.Bounded.empty : Memo.empty.Bounded := by
  intro k v h; simp at h

theorem Memo.Bounded.store {dp : Memo} {k : NodeResourceFlat} {v : ℚ} (hdp : dp.Bounded)
    (h₀ : 0 ≤ v) (h₁ : v ≤ k.gpuMilliLeftTotal) : (dp.store k v).Bounded := by
  intro k' v' h
  rw [Memo.load_store] at h
  split_ifs at h with hk
  · cases h; exact hk ▸ ⟨h₀, h₁⟩
  · exact hdp k' v' h

/-- The tables a scheduling cycle can leave behind: the empty table, then any sequence of
calls with the same typical pods on nodes with no negative GPU. -/
inductive BellmanHistory (P : TargetPodList) : Memo → Prop where
  | empty : BellmanHistory P Memo.empty
  | call {dp dp' : Memo} {fuel : Nat} {n : NodeResource} {c v : ℚ} :
      BellmanHistory P dp → n.NonNeg → nodeGpuFragBellman P fuel n dp c = some (v, dp') →
      BellmanHistory P dp'

/-- A recursive call that keeps the bound: from a bounded table, on a node with no
negative GPU, it answers in `[0, G]` and leaves a bounded table. -/
def BoundedCall (bellman : NodeResource → Memo → ℚ → Option (ℚ × Memo)) : Prop :=
  ∀ n dp c v dp', n.NonNeg → dp.Bounded → bellman n dp c = some (v, dp') →
    (0 ≤ v ∧ v ≤ getGpuMilliLeftTotal n) ∧ dp'.Bounded

section Bound

variable {bellman : NodeResource → Memo → ℚ → Option (ℚ × Memo)} {n : NodeResource} {c : ℚ}

/-- The loop adds, for each typical pod, at least zero and at most `G` times its
probability. -/
theorem bellmanPods_bounded (hrec : BoundedCall bellman) (hn : n.NonNeg) (pods : TargetPodList)
    (hpods : ∀ pod ∈ pods, 0 ≤ pod.targetPodResource.milliGpu ∧ 0 ≤ pod.percentage) :
    ∀ pvSum dp pvSum' dp', dp.Bounded →
      bellmanPods bellman n (getGpuMilliLeftTotal n) c pods pvSum dp = some (pvSum', dp') →
      pvSum ≤ pvSum' ∧
        pvSum' ≤ pvSum + getGpuMilliLeftTotal n * (pods.map (·.percentage)).sum ∧
        dp'.Bounded := by
  have hg : (0 : ℚ) ≤ getGpuMilliLeftTotal n := Int.cast_nonneg.mpr (getGpuMilliLeftTotal_nonneg hn)
  induction pods with
  | nil =>
    intro pvSum dp pvSum' dp' hdp h
    cases h
    simpa using hdp
  | cons pod pods ih =>
    intro pvSum dp pvSum' dp' hdp h
    obtain ⟨hm, hp⟩ := hpods pod (List.mem_cons_self _ _)
    have ih := ih fun q hq => hpods q (List.mem_cons_of_mem _ hq)
    simp only [List.map_cons, List.sum_cons, mul_add]
    cases hsub : n.sub pod.targetPodResource with
    | error e =>
      rw [bellmanPods_cons_error hsub] at h
      obtain ⟨h₁, h₂, h₃⟩ := ih _ _ _ _ hdp h
      have : 0 ≤ (getGpuMilliLeftTotal n : ℚ) * pod.percentage := mul_nonneg hg hp
      exact ⟨by linarith, by linarith, h₃⟩
    | ok n' =>
      rw [bellmanPods_cons_ok hsub] at h
      obtain ⟨⟨v, dp₁⟩, hv, hrest⟩ := Option.bind_eq_some.mp h
      obtain ⟨⟨hv₀, hv₁⟩, hdp₁⟩ := hrec _ _ _ _ _ (hn.sub hsub) hdp hv
      have hG : (getGpuMilliLeftTotal n' : ℚ) ≤ getGpuMilliLeftTotal n :=
        Int.cast_le.mpr (getGpuMilliLeftTotal_sub_le hsub hm)
      obtain ⟨h₁, h₂, h₃⟩ := ih _ _ _ _ hdp₁ hrest
      have hlo : 0 ≤ v * pod.percentage := mul_nonneg hv₀ hp
      have hhi : v * pod.percentage ≤ getGpuMilliLeftTotal n * pod.percentage :=
        mul_le_mul_of_nonneg_right (hv₁.trans hG) hp
      exact ⟨by linarith, by linarith, h₃⟩

/-- One call keeps the bound, given typical pods whose probabilities sum to at most one. -/
theorem bellmanCall_bounded {P : TargetPodList}
    (hP : ∀ pod ∈ P, 0 ≤ pod.targetPodResource.milliGpu ∧ 0 ≤ pod.percentage)
    (hsum : (P.map (·.percentage)).sum ≤ 1) (hrec : BoundedCall bellman) :
    BoundedCall (bellmanCall P bellman) := by
  intro n dp c v dp' hn hdp h
  have hg : (0 : ℚ) ≤ getGpuMilliLeftTotal n := Int.cast_nonneg.mpr (getGpuMilliLeftTotal_nonneg hn)
  have hkey := gpuMilliLeftTotal_flatten n "bellman"
  rcases bellmanCall_eq_some h with ⟨hit, rfl⟩ | ⟨-, -, rfl, rfl⟩ | ⟨-, -, -, -, rfl, rfl⟩ |
      ⟨-, -, -, -, pvSum, dp'', hpods, rfl, rfl⟩
  · exact ⟨hkey ▸ hdp _ _ hit, hdp⟩
  · exact ⟨⟨le_refl 0, hg⟩, hdp⟩
  · exact ⟨⟨hg, le_refl _⟩, hdp.store hg (by rw [hkey])⟩
  · obtain ⟨h₁, h₂, h₃⟩ := bellmanPods_bounded hrec hn P hP _ _ _ _ hdp hpods
    have hle : (getGpuMilliLeftTotal n : ℚ) * (P.map (·.percentage)).sum ≤ getGpuMilliLeftTotal n :=
      mul_le_of_le_one_right hg hsum
    have hv : 0 ≤ 0 + pvSum * bellmanGamma ∧ 0 + pvSum * bellmanGamma ≤ getGpuMilliLeftTotal n := by
      simp only [bellmanGamma, mul_one, zero_add]; exact ⟨h₁, by linarith⟩
    exact ⟨hv, h₃.store hv.1 (by rw [hkey]; exact hv.2)⟩

end Bound

/-- Every depth of the recursion keeps the bound. -/
theorem nodeGpuFragBellman_bounded {P : TargetPodList}
    (hP : ∀ pod ∈ P, 0 ≤ pod.targetPodResource.milliGpu ∧ 0 ≤ pod.percentage)
    (hsum : (P.map (·.percentage)).sum ≤ 1) : ∀ fuel, BoundedCall (nodeGpuFragBellman P fuel)
  | 0 => by intro _ _ _ _ _ _ _ h; cases h
  | fuel + 1 => bellmanCall_bounded hP hsum (nodeGpuFragBellman_bounded hP hsum fuel)

/-- The Bellman value lies in `[0, G]` and every value the call stores lies in `[0, G]` of
its key, from any table that already satisfies this; so every table a sequence of calls
leaves behind satisfies it. -/
theorem nodeGpuFragBellman_le_gpuMilliLeftTotal {P : TargetPodList}
    (hP : ∀ pod ∈ P, 0 ≤ pod.targetPodResource.milliGpu ∧ 0 ≤ pod.percentage)
    (hsum : (P.map (·.percentage)).sum ≤ 1) :
    (∀ fuel n dp c v dp', n.NonNeg → dp.Bounded →
      nodeGpuFragBellman P fuel n dp c = some (v, dp') →
      (0 ≤ v ∧ v ≤ getGpuMilliLeftTotal n) ∧ dp'.Bounded) ∧
    (∀ dp, BellmanHistory P dp → dp.Bounded) := by
  refine ⟨fun fuel => nodeGpuFragBellman_bounded hP hsum fuel, fun dp hdp => ?_⟩
  induction hdp with
  | empty => exact Memo.Bounded.empty
  | call _ hn hcall ih => exact (nodeGpuFragBellman_bounded hP hsum _ _ _ _ _ _ hn ih hcall).2

/-- A pod asking for 600 millis of one GPU, the whole reference workload. -/
def sharePod600 : TargetPod := ⟨⟨0, 0, 600, 1, ""⟩, 1⟩

theorem nodeGpuFragBellman_le_gpuMilliLeftTotal_sharePod :
    (∀ pod ∈ [sharePod600], 0 ≤ pod.targetPodResource.milliGpu ∧ 0 ≤ pod.percentage) ∧
    ([sharePod600].map (·.percentage)).sum ≤ 1 ∧
    ∀ dp, BellmanHistory [sharePod600] dp → dp.Bounded := by
  have hP : ∀ pod ∈ [sharePod600], 0 ≤ pod.targetPodResource.milliGpu ∧ 0 ≤ pod.percentage := by
    simp [sharePod600]
  have hsum : ([sharePod600].map (·.percentage)).sum ≤ 1 := by simp [sharePod600]
  exact ⟨hP, hsum, (nodeGpuFragBellman_le_gpuMilliLeftTotal hP hsum).2⟩

end KubeSchedulerSim
