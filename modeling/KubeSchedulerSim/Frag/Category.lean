/-
Module: KubeSchedulerSim.Frag.Category
Purpose: How one typical pod sees one node (`GetNodePodFrag`, its seven categories), and the
  frequency vector `NodeGpuFragRatio` accumulates over the typical pods. The Bellman
  recursion cuts off on this vector's mass outside `Q3Satisfied`, so the module ends with
  the two facts the recursion's proofs use: that mass is non-negative, and it is at least
  the frequency of any counted pod the node does not satisfy.
Trusted boundary: the categories are an inductive type where the source uses string
  constants; `GetNodePodFrag` only ever returns one of the seven, so the source's
  `bad fragType` error cannot happen and is not modelled.
Main exports: FragType, getNodePodFrag, FragRatio, nodeGpuFragRatio, sumExceptQ3,
  le_fragRatioSumExceptQ3
-/
import KubeSchedulerSim.Resource.Ops

namespace KubeSchedulerSim

/-- The seven fragmentation categories (`Q1LackBoth` … `NoAccess`). -/
inductive FragType where
  | q1LackBoth
  | q2LackGpu
  | q3Satisfied
  | q4LackCpu
  | xlSatisfied
  | xrLackCPU
  | noAccess
deriving DecidableEq, Repr

/-- `FragRatioDataMap`, as the order of the slots of `Data`. -/
def FragType.all : List FragType :=
  [.q1LackBoth, .q2LackGpu, .q3Satisfied, .q4LackCpu, .xlSatisfied, .xrLackCPU, .noAccess]

/-- `GetNodePodFrag`: the decision tree of §4.3 of the spec, as the source writes it. -/
def getNodePodFrag (nodeRes : NodeResource) (podRes : PodResource) : FragType :=
  if podRes.milliGpu = 0 then
    if podRes.milliCpu ≤ nodeRes.milliCpuLeft then .xlSatisfied else .xrLackCPU
  else if isNodeAccessibleToPod nodeRes podRes = false then .noAccess
  else if canNodeHostPodOnGpuMemory nodeRes podRes then
    if podRes.milliCpu ≤ nodeRes.milliCpuLeft then .q3Satisfied else .q4LackCpu
  else if podRes.milliCpu ≤ nodeRes.milliCpuLeft then .q2LackGpu else .q1LackBoth

/-- A CPU-only pod never lands in `Q3Satisfied`. -/
theorem getNodePodFrag_ne_q3_of_milliGpu_eq_zero {n : NodeResource} {p : PodResource}
    (h : p.milliGpu = 0) : getNodePodFrag n p ≠ .q3Satisfied := by
  unfold getNodePodFrag
  split_ifs <;> simp_all

/-! ### Slot vectors

`FragRatio.Data` and `FragAmount.Data` are seven-slot `float64` slices. Both are read the
same way (the sum of every slot but `Q3Satisfied`) and written the same way (one slot grows),
so the two operations are stated once over a slot vector. -/

/-- Add `x` to slot `t`. -/
def addAt (data : FragType → ℚ) (t : FragType) (x : ℚ) : FragType → ℚ :=
  Function.update data t (data t + x)

/-- The loop of `FragRatioSumExceptQ3` and `FragAmountSumExceptQ3`. -/
def sumExceptQ3 (data : FragType → ℚ) : ℚ :=
  ((FragType.all.filter (· ≠ .q3Satisfied)).map data).sum

theorem sumExceptQ3_addAt (data : FragType → ℚ) (t : FragType) (x : ℚ) :
    sumExceptQ3 (addAt data t x) = sumExceptQ3 data + if t = .q3Satisfied then 0 else x := by
  cases t <;> simp [sumExceptQ3, addAt, FragType.all, Function.update] <;> ring

theorem sumExceptQ3_nonneg {data : FragType → ℚ} (h : ∀ t, 0 ≤ data t) :
    0 ≤ sumExceptQ3 data :=
  List.sum_nonneg (by simp only [List.mem_map]; rintro _ ⟨t, -, rfl⟩; exact h t)

/-! ### FragRatio -/

/-- `FragRatio`. -/
structure FragRatio where
  data : FragType → ℚ

/-- `FragRatio.AddRatio`: refuses a frequency outside `[0, 1]`. -/
def FragRatio.addRatio (fr : FragRatio) (fragType : FragType) (freq : ℚ) :
    Except String FragRatio :=
  if freq < 0 ∨ freq > 1 then .error "bad freq" else .ok ⟨addAt fr.data fragType freq⟩

/-- `FragRatio.FragRatioSumExceptQ3`. -/
def FragRatio.fragRatioSumExceptQ3 (fr : FragRatio) : ℚ := sumExceptQ3 fr.data

/-- One pass of the loop of `NodeGpuFragRatio`: a pod with a bad frequency is logged and
skipped, and an `AddRatio` error would be logged and leave the vector as it was. -/
def fragRatioStep (nodeRes : NodeResource) (fragRatio : FragRatio) (pod : TargetPod) :
    FragRatio :=
  let freq := pod.percentage
  if freq < 0 ∨ freq > 1 then fragRatio
  else ((fragRatio.addRatio (getNodePodFrag nodeRes pod.targetPodResource) freq).toOption).getD
    fragRatio

/-- `NodeGpuFragRatio`. -/
def nodeGpuFragRatio (nodeRes : NodeResource) (typicalPods : TargetPodList) : FragRatio :=
  typicalPods.foldl (fragRatioStep nodeRes) ⟨fun _ => 0⟩

/-- Whether a typical pod is counted by `NodeGpuFragRatio` outside `Q3Satisfied`. -/
def CountedOutsideQ3 (nodeRes : NodeResource) (pod : TargetPod) : Prop :=
  0 ≤ pod.percentage ∧ pod.percentage ≤ 1 ∧
    getNodePodFrag nodeRes pod.targetPodResource ≠ .q3Satisfied

instance (nodeRes : NodeResource) (pod : TargetPod) :
    Decidable (CountedOutsideQ3 nodeRes pod) :=
  inferInstanceAs (Decidable (_ ∧ _ ∧ _))

/-- What one pass of `NodeGpuFragRatio` does: a counted frequency goes to the pod's slot. -/
theorem fragRatioStep_data (n : NodeResource) (fr : FragRatio) (pod : TargetPod) :
    (fragRatioStep n fr pod).data =
      if 0 ≤ pod.percentage ∧ pod.percentage ≤ 1 then
        addAt fr.data (getNodePodFrag n pod.targetPodResource) pod.percentage
      else fr.data := by
  unfold fragRatioStep
  by_cases hp : 0 ≤ pod.percentage ∧ pod.percentage ≤ 1
  · have hf : ¬ (pod.percentage < 0 ∨ pod.percentage > 1) := by
      rintro (h | h) <;> linarith [hp.1, hp.2]
    simp [hf, hp, FragRatio.addRatio, Except.toOption]
  · have hf : pod.percentage < 0 ∨ pod.percentage > 1 := by
      by_contra h; push_neg at h; exact hp h
    simp [hf, hp]

theorem fragRatioStep_sum (n : NodeResource) (fr : FragRatio) (pod : TargetPod) :
    (fragRatioStep n fr pod).fragRatioSumExceptQ3 =
      fr.fragRatioSumExceptQ3 + if CountedOutsideQ3 n pod then pod.percentage else 0 := by
  unfold FragRatio.fragRatioSumExceptQ3 CountedOutsideQ3
  rw [fragRatioStep_data]
  split_ifs with hp hc hc
  · simp [sumExceptQ3_addAt, hc.2.2]
  · simp only [sumExceptQ3_addAt, add_right_inj, ite_eq_left_iff]
    exact fun hq => absurd ⟨hp.1, hp.2, hq⟩ hc
  · exact absurd ⟨hc.1, hc.2.1⟩ hp
  · simp

/-- The frequency mass outside `Q3Satisfied` is the sum of the counted frequencies. -/
theorem fragRatioSumExceptQ3_foldl (n : NodeResource) (pods : TargetPodList) :
    ∀ fr : FragRatio, (pods.foldl (fragRatioStep n) fr).fragRatioSumExceptQ3 =
      fr.fragRatioSumExceptQ3 +
        (pods.map fun pod => if CountedOutsideQ3 n pod then pod.percentage else 0).sum := by
  induction pods with
  | nil => simp
  | cons pod pods ih => intro fr; simp only [List.foldl_cons, ih, fragRatioStep_sum]; simp; ring

theorem countedTerm_nonneg (n : NodeResource) (pod : TargetPod) :
    0 ≤ if CountedOutsideQ3 n pod then pod.percentage else 0 := by
  split_ifs with h
  · exact h.1
  · exact le_refl 0

theorem fragRatioSumExceptQ3_nonneg (n : NodeResource) (pods : TargetPodList) :
    0 ≤ (nodeGpuFragRatio n pods).fragRatioSumExceptQ3 := by
  rw [nodeGpuFragRatio, fragRatioSumExceptQ3_foldl]
  refine add_nonneg (le_of_eq (by simp [FragRatio.fragRatioSumExceptQ3, sumExceptQ3])) ?_
  exact List.sum_nonneg (by simp only [List.mem_map]; rintro _ ⟨p, -, rfl⟩; exact countedTerm_nonneg n p)

/-- Any one counted pod outside `Q3Satisfied` is part of the mass the cutoff compares. -/
theorem le_fragRatioSumExceptQ3 {n : NodeResource} {pods : TargetPodList} {pod : TargetPod}
    (hmem : pod ∈ pods) (h : CountedOutsideQ3 n pod) :
    pod.percentage ≤ (nodeGpuFragRatio n pods).fragRatioSumExceptQ3 := by
  rw [nodeGpuFragRatio, fragRatioSumExceptQ3_foldl]
  have hzero : FragRatio.fragRatioSumExceptQ3 ⟨fun _ => 0⟩ = 0 := by
    simp [FragRatio.fragRatioSumExceptQ3, sumExceptQ3]
  rw [hzero, zero_add]
  have := List.single_le_sum (fun x hx => by
      simp only [List.mem_map] at hx
      obtain ⟨p, -, rfl⟩ := hx
      exact countedTerm_nonneg n p)
    _ (List.mem_map_of_mem (fun pod => if CountedOutsideQ3 n pod then pod.percentage else 0) hmem)
  simpa [h] using this

end KubeSchedulerSim
