/-
Module: KubeSchedulerSim.Resource.Ops
Purpose: The node operations that frag.go and pwr_score.go call but that live outside the
  source given: `NodeResource.Sub`, `IsNodeAccessibleToPod` and `NodeResource.Flatten`.
  Each is modelled from the spec's words (its resource model, §4.1, and its note on the
  Bellman key, §9), and each comes with the few facts the estimator relies on: `Sub` keeps
  every GPU non-negative and takes exactly `milliGpu` from each of `gpuNumber` GPUs, and
  the Bellman key keeps the node's GPU total.
Trusted boundary: the three spec-modelled definitions below.
Main exports: NodeResource.sub, isNodeAccessibleToPod, NodeResource.flatten,
  NodeResource.sub_eq_ok, getGpuMilliLeftTotal_sub, NodeResource.NonNeg.sub
-/
import KubeSchedulerSim.Resource.Types

namespace KubeSchedulerSim

/-! ### Sub -/

/-- The three ways `Sub` refuses a pod. -/
inductive SubError where
  | insufficientResources
  | incompatibleGpuType
  | insufficientGpus
deriving DecidableEq, Repr

/-- Take `milliGpu` from the first `need` GPUs that still hold it, lowest index first. -/
def subGpus (milliGpu : Int) : Int → List Int → List Int
  | _, [] => []
  | need, x :: xs =>
    if 0 < need ∧ milliGpu ≤ x then (x - milliGpu) :: subGpus milliGpu (need - 1) xs
    else x :: subGpus milliGpu need xs

/-- Modelled from the spec: `NodeResource.Sub` (not in the source given). It fails when
the CPU or memory would go negative, when the pod names another GPU type, or when fewer than
`gpuNumber` GPUs hold `milliGpu`; otherwise it deducts the pod from the lowest-indexed GPUs
that fit. -/
def NodeResource.sub (n : NodeResource) (p : PodResource) : Except SubError NodeResource :=
  if n.milliCpuLeft < p.milliCpu ∨ n.memoryLeft < p.memory then .error .insufficientResources
  else if p.gpuType ≠ "" ∧ p.gpuType ≠ n.gpuType then .error .incompatibleGpuType
  else if (fittingGpus p.milliGpu n.milliGpuLeftList : Int) < p.gpuNumber then
    .error .insufficientGpus
  else .ok { n with
    milliCpuLeft := n.milliCpuLeft - p.milliCpu
    memoryLeft := n.memoryLeft - p.memory
    milliGpuLeftList := subGpus p.milliGpu p.gpuNumber n.milliGpuLeftList }

/-- What a successful `Sub` checked and what it returned. -/
theorem NodeResource.sub_eq_ok {n n' : NodeResource} {p : PodResource}
    (h : n.sub p = .ok n') :
    p.milliCpu ≤ n.milliCpuLeft ∧ p.memory ≤ n.memoryLeft ∧
      p.gpuNumber ≤ fittingGpus p.milliGpu n.milliGpuLeftList ∧
      n' = { n with
        milliCpuLeft := n.milliCpuLeft - p.milliCpu
        memoryLeft := n.memoryLeft - p.memory
        milliGpuLeftList := subGpus p.milliGpu p.gpuNumber n.milliGpuLeftList } := by
  unfold NodeResource.sub at h
  split_ifs at h with h₁ h₂ h₃
  cases h
  exact ⟨by omega, by omega, by omega, rfl⟩

theorem length_subGpus (m : Int) (l : List Int) :
    ∀ need, (subGpus m need l).length = l.length := by
  induction l with
  | nil => intro; rfl
  | cons x xs ih => intro need; unfold subGpus; split <;> simp [ih]

theorem subGpus_nonneg (m : Int) (l : List Int) (hl : ∀ x ∈ l, 0 ≤ x) :
    ∀ need, ∀ y ∈ subGpus m need l, 0 ≤ y := by
  induction l with
  | nil => simp [subGpus]
  | cons x xs ih =>
    intro need y hy
    simp only [List.mem_cons, forall_eq_or_imp] at hl
    unfold subGpus at hy
    split at hy <;> simp only [List.mem_cons] at hy
    · rcases hy with rfl | hy
      · omega
      · exact ih hl.2 _ y hy
    · rcases hy with rfl | hy
      · exact hl.1
      · exact ih hl.2 _ y hy

/-- `subGpus` takes `milliGpu` from as many GPUs as it is asked for and as fit. -/
theorem sum_subGpus (m : Int) (l : List Int) :
    ∀ need, (subGpus m need l).sum = l.sum - m * min (max need 0) (fittingGpus m l) := by
  induction l with
  | nil => intro; simp [subGpus]
  | cons x xs ih =>
    intro need
    unfold subGpus
    rw [fittingGpus_cons]
    split
    next h =>
      have hmin : min (max need 0) ((fittingGpus m xs + 1 : Nat) : Int)
          = min (max (need - 1) 0) (fittingGpus m xs) + 1 := by push_cast; omega
      simp only [h.2, if_true, List.sum_cons, ih, hmin]
      ring
    next h =>
      have hmin : min (max need 0) ((fittingGpus m xs + if m ≤ x then 1 else 0 : Nat) : Int)
          = min (max need 0) (fittingGpus m xs) := by
        split <;> push_cast <;> omega
      simp only [List.sum_cons, ih, hmin]
      ring

/-- A successful `Sub` takes exactly `milliGpu` from each of `gpuNumber` GPUs. -/
theorem getGpuMilliLeftTotal_sub {n n' : NodeResource} {p : PodResource}
    (h : n.sub p = .ok n') :
    getGpuMilliLeftTotal n' = getGpuMilliLeftTotal n - p.milliGpu * max p.gpuNumber 0 := by
  obtain ⟨-, -, hfit, rfl⟩ := NodeResource.sub_eq_ok h
  have : min (max p.gpuNumber 0) (fittingGpus p.milliGpu n.milliGpuLeftList : Int)
      = max p.gpuNumber 0 := by omega
  simp only [getGpuMilliLeftTotal, sum_subGpus, this]

theorem getGpuMilliLeftTotal_sub_le {n n' : NodeResource} {p : PodResource}
    (h : n.sub p = .ok n') (hp : 0 ≤ p.milliGpu) :
    getGpuMilliLeftTotal n' ≤ getGpuMilliLeftTotal n := by
  rw [getGpuMilliLeftTotal_sub h]
  nlinarith [le_max_right p.gpuNumber 0]

theorem NodeResource.NonNeg.sub {n n' : NodeResource} {p : PodResource} (hn : n.NonNeg)
    (h : n.sub p = .ok n') : n'.NonNeg := by
  obtain ⟨-, -, -, rfl⟩ := NodeResource.sub_eq_ok h
  exact subGpus_nonneg _ _ hn _

/-! ### IsNodeAccessibleToPod -/

/-- Modelled from the spec: `IsNodeAccessibleToPod` (not in the source given). The GPU type
matches or the pod names none, and the GPUs can hold the pod or the pod is CPU-only. -/
def isNodeAccessibleToPod (nodeRes : NodeResource) (podRes : PodResource) : Bool :=
  (podRes.gpuType == "" || podRes.gpuType == nodeRes.gpuType) &&
    (canNodeHostPodOnGpuMemory nodeRes podRes || podRes.milliGpu == 0)

/-! ### Flatten -/

/-- The key of the Bellman table. -/
structure NodeResourceFlat where
  milliCpu : Int
  memory : Int
  gpu : List Int
  gpuType : String
  remark : String
deriving DecidableEq, Repr

/-- Modelled from the spec: `NodeResource.Flatten` (not in the source given), the node's
signature with its GPU list sorted, so that nodes that differ only in GPU order share a
key. -/
def NodeResource.flatten (n : NodeResource) (remark : String) : NodeResourceFlat where
  milliCpu := n.milliCpuLeft
  memory := n.memoryLeft
  gpu := n.milliGpuLeftList.mergeSort
  gpuType := n.gpuType
  remark := remark

/-- The GPU total a key stands for. -/
def NodeResourceFlat.gpuMilliLeftTotal (k : NodeResourceFlat) : Int := k.gpu.sum

@[simp] theorem gpuMilliLeftTotal_flatten (n : NodeResource) (remark : String) :
    (n.flatten remark).gpuMilliLeftTotal = getGpuMilliLeftTotal n :=
  (List.mergeSort_perm _ _).sum_eq

end KubeSchedulerSim
