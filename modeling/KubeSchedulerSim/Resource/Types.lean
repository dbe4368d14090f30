/-
Module: KubeSchedulerSim.Resource.Types
Purpose: The resource records the fragmentation estimator, the workload distiller and the
  scoring plugins read: `PodResource`, `NodeResource`, `TargetPod`, and the two loops over a
  node's GPU list that everything else is built on, `GetGpuMilliLeftTotal` and
  `CanNodeHostPodOnGpuMemory` (src/pkg/utils/frag.go).
Trusted boundary: the Go `int64` fields are `Int` (the millis of a node stay far below
  2^63), and every `float64` of the source is an exact `ℚ`.
Main exports: PodResource, NodeResource, TargetPod, getGpuMilliLeftTotal,
  canNodeHostPodOnGpuMemory, canHostLoop_eq_true_iff, canNodeHostPodOnGpuMemory_iff_count
-/
import Mathlib.Data.Rat.Defs
import Mathlib.Algebra.Order.Field.Rat
import Mathlib.Algebra.Order.BigOperators.Group.List
import Mathlib.Tactic.Ring
import Mathlib.Tactic.Linarith
import Mathlib.Tactic.NormNum

namespace KubeSchedulerSim

/-- `gpushareutils.MILLI`: the millis of one whole GPU. -/
def milli : Int := 1000

/-- `simontype.PodResource`: the request of one pod. A GPU-share pod asks for
`milliGpu < 1000` of one GPU; a whole-GPU pod asks for `gpuNumber` GPUs at `1000`. -/
structure PodResource where
  milliCpu : Int
  memory : Int
  milliGpu : Int
  gpuNumber : Int
  gpuType : String
deriving DecidableEq, Repr

/-- `simontype.NodeResource`: what is left on one node; entry `i` of `milliGpuLeftList`
is what GPU `i` still has free. -/
structure NodeResource where
  nodeName : String
  milliCpuLeft : Int
  memoryLeft : Int
  milliGpuLeftList : List Int
  gpuType : String
deriving DecidableEq, Repr

/-- `simontype.TargetPod`: one shape of the reference workload and its weight, a count
while the distiller works and a probability once it is done. -/
structure TargetPod where
  targetPodResource : PodResource
  percentage : ℚ
deriving DecidableEq, Repr

/-- `simontype.TargetPodList`. -/
abbrev TargetPodList := List TargetPod

/-- `simontype.SkylinePodList`. -/
abbrev SkylinePodList := List PodResource

/-- Requests a validated workload is made of: nothing negative (the simulator rejects
negative requests when it reads the workload). -/
structure PodResource.NonNeg (p : PodResource) : Prop where
  milliCpu : 0 ≤ p.milliCpu
  memory : 0 ≤ p.memory
  milliGpu : 0 ≤ p.milliGpu

/-- Every GPU of the node has a non-negative amount left. -/
def NodeResource.NonNeg (n : NodeResource) : Prop :=
  ∀ x ∈ n.milliGpuLeftList, 0 ≤ x

instance (n : NodeResource) : Decidable n.NonNeg :=
  inferInstanceAs (Decidable (∀ x ∈ n.milliGpuLeftList, 0 ≤ x))

/-! ### GetGpuMilliLeftTotal -/

/-- `GetGpuMilliLeftTotal`: the free millis summed over the node's GPUs. -/
def getGpuMilliLeftTotal (nodeRes : NodeResource) : Int :=
  nodeRes.milliGpuLeftList.sum

theorem getGpuMilliLeftTotal_nonneg {n : NodeResource} (h : n.NonNeg) :
    0 ≤ getGpuMilliLeftTotal n :=
  List.sum_nonneg h

/-! ### CanNodeHostPodOnGpuMemory

The source walks the GPU list with a countdown `gpuRequest`, decrements it at every GPU that
still holds `milliGpu`, and returns as soon as the countdown reaches zero. The early return
fires at the first fitting GPU even when the countdown started at or below one, so a
request of zero GPUs still needs one fitting GPU. -/

/-- The loop of `CanNodeHostPodOnGpuMemory` with `gpuRequest` still to find. -/
def canHostLoop (milliGpu : Int) : Int → List Int → Bool
  | _, [] => false
  | gpuRequest, gpuHostMem :: rest =>
    if milliGpu ≤ gpuHostMem then
      if gpuRequest - 1 ≤ 0 then true else canHostLoop milliGpu (gpuRequest - 1) rest
    else canHostLoop milliGpu gpuRequest rest

/-- `CanNodeHostPodOnGpuMemory`. -/
def canNodeHostPodOnGpuMemory (nodeRes : NodeResource) (podRes : PodResource) : Bool :=
  canHostLoop podRes.milliGpu podRes.gpuNumber nodeRes.milliGpuLeftList

/-- The number of GPUs of `l` that still hold `milliGpu`. -/
def fittingGpus (milliGpu : Int) (l : List Int) : Nat :=
  l.countP (fun x => milliGpu ≤ x)

@[simp] theorem fittingGpus_nil (m : Int) : fittingGpus m [] = 0 := rfl

theorem fittingGpus_cons (m x : Int) (l : List Int) :
    fittingGpus m (x :: l) = fittingGpus m l + if m ≤ x then 1 else 0 := by
  by_cases h : m ≤ x <;> simp [fittingGpus, List.countP_cons, h]

/-- The countdown loop counts: it succeeds exactly when the list has at least one fitting
GPU and at least `gpuRequest` of them. -/
theorem canHostLoop_eq_true_iff (m : Int) (l : List Int) :
    ∀ r : Int, canHostLoop m r l = true ↔ max r 1 ≤ fittingGpus m l := by
  induction l with
  | nil => intro r; simp [canHostLoop]
  | cons x l ih =>
    intro r
    rw [fittingGpus_cons]
    by_cases hx : m ≤ x
    · by_cases hr : r - 1 ≤ 0
      · simp only [canHostLoop, hx, hr, if_true, true_iff]; push_cast; omega
      · simp only [canHostLoop, hx, hr, if_true, if_false, ih]; push_cast; omega
    · simp only [canHostLoop, hx, if_false, ih]; push_cast; omega

/-- With at least one GPU requested, `CanNodeHostPodOnGpuMemory` holds exactly when at least
`GpuNumber` GPUs of the node still hold `MilliGpu`. -/
theorem canNodeHostPodOnGpuMemory_iff_count (nodeRes : NodeResource) (podRes : PodResource)
    (hgpu : 1 ≤ podRes.gpuNumber) :
    canNodeHostPodOnGpuMemory nodeRes podRes = true ↔
      podRes.gpuNumber ≤ (nodeRes.milliGpuLeftList.countP fun x => podRes.milliGpu ≤ x) := by
  rw [canNodeHostPodOnGpuMemory, canHostLoop_eq_true_iff, max_eq_left hgpu]
  exact Iff.rfl

theorem canNodeHostPodOnGpuMemory_iff_count_twoOfThree :
    1 ≤ (⟨0, 0, 500, 2, ""⟩ : PodResource).gpuNumber ∧
      (canNodeHostPodOnGpuMemory ⟨"node", 0, 0, [1000, 300, 600], ""⟩ ⟨0, 0, 500, 2, ""⟩ = true ↔
        (⟨0, 0, 500, 2, ""⟩ : PodResource).gpuNumber ≤
          (([1000, 300, 600] : List Int).countP fun x =>
            (⟨0, 0, 500, 2, ""⟩ : PodResource).milliGpu ≤ x)) :=
  ⟨by decide, canNodeHostPodOnGpuMemory_iff_count _ _ (by decide)⟩

end KubeSchedulerSim
