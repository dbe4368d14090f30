/-
Module: KubeSchedulerSim.Algo.Greed
Purpose: The pod queues of src/pkg/algo. `GreedQueue` (greed.go) orders pods by their
  dominant share of the cluster's allocatable CPU and memory, largest first, and puts pods
  already bound to a node before all others; `TolerationQueue` (toleration.go) puts pods
  with tolerations first. Both are `sort.Interface` values handed to `sort.Sort`.
  `sort.Sort` is Go's standard library and is taken by its interface: it reads the data
  only through `Len` and `Less` and moves it only through `Swap`, so the arrangement it
  reaches is the data permuted by an order of the positions that depends on the table of
  `Less` alone. `SortSort` is any such procedure meeting the documented contract:
  ascending whenever `Less` is a strict weak order, with no promise of stability.
Trusted boundary: `resource.Quantity` and `float64` are `ℚ`, so `AsApproximateFloat64` is
  exact; the requests `resourcehelper.PodRequestsAndLimits` returns are a field of the pod;
  a `corev1.ResourceList` is the list of its entries in the order `range` visits them;
  `sort.Sort` is any `SortSort`.
Main exports: Pod, Node, share, GreedQueue, newGreedQueue, GreedQueue.calculatePodShare,
  GreedQueue.podLess, GreedQueue.less, TolerationQueue.less, SortSort, SortSort.sortBy,
  GreedQueue.sort, mergeSortSort
-/
import Mathlib.Algebra.Order.Field.Rat
import Mathlib.Data.List.FinRange
import Mathlib.Data.List.Sort

namespace KubeSchedulerSim

/-! ### Pods, nodes and resource lists -/

/-- `corev1.ResourceList`: its entries, resource name and quantity, in the order `range`
visits the map in. -/
abbrev ResourceList := List (String × ℚ)

/-- `corev1.ResourceCPU`. -/
def resourceCPU : String := "cpu"

/-- `corev1.ResourceMemory`. -/
def resourceMemory : String := "memory"

/-- What the queues read of a `corev1.Pod`. -/
structure Pod where
  /-- `Spec.NodeName`. -/
  nodeName : String
  /-- `Spec.Tolerations != nil`. -/
  hasTolerations : Bool
  /-- The requests `resourcehelper.PodRequestsAndLimits(pod)` returns. -/
  requests : ResourceList
deriving DecidableEq, Repr

/-- What `NewGreedQueue` reads of a `corev1.Node`. -/
structure Node where
  /-- `Status.Allocatable.Cpu()`. -/
  allocatableCpu : ℚ
  /-- `Status.Allocatable.Memory()`. -/
  allocatableMemory : ℚ
deriving DecidableEq, Repr

/-! ### `GreedQueue` -/

/-- `GreedQueue`: the pods to sort and the cluster's total allocatable resources. -/
structure GreedQueue where
  pods : List Pod
  totalResource : ResourceList

/-- `NewGreedQueue`: CPU and memory start at zero and every node adds its allocatable
amounts. -/
def newGreedQueue (nodes : List Node) (pods : List Pod) : GreedQueue :=
  let (cpu, memory) := nodes.foldl
    (fun (cpu, memory) node => (cpu + node.allocatableCpu, memory + node.allocatableMemory))
    (0, 0)
  { totalResource := [(resourceCPU, cpu), (resourceMemory, memory)], pods := pods }

/-- `Share`: `alloc / total`, where a zero total gives `0` for a zero request and `1`
otherwise. -/
def share (alloc total : ℚ) : ℚ :=
  if total = 0 then (if alloc = 0 then 0 else 1) else alloc / total

/-- One pass of the loop of `calculatePodShare` over `totalResource`: the running maximum
`res` against the share of one resource. A resource the pod does not request reads as a
zero quantity. -/
def GreedQueue.shareStep (podReq : ResourceList) (res : ℚ) (entry : String × ℚ) : ℚ :=
  let s := share ((podReq.lookup entry.1).getD 0) entry.2
  if s > res then s else res

/-- `calculatePodShare`: the pod's dominant share, `0` when it requests nothing. -/
def GreedQueue.calculatePodShare (greed : GreedQueue) (pod : Pod) : ℚ :=
  let podReq := pod.requests
  if podReq.length = 0 then 0
  else greed.totalResource.foldl (GreedQueue.shareStep podReq) 0

/-- `Less` on the pods it reads: a pod with a node name comes first whatever the other pod
is, then a pod with a larger dominant share. -/
def GreedQueue.podLess (greed : GreedQueue) (podI podJ : Pod) : Bool :=
  if podI.nodeName.length ≠ 0 then true
  else if podJ.nodeName.length ≠ 0 then false
  else decide (greed.calculatePodShare podI > greed.calculatePodShare podJ)

/-- `GreedQueue.Less`. -/
def GreedQueue.less (greed : GreedQueue) (i j : Fin greed.pods.length) : Bool :=
  greed.podLess (greed.pods.get i) (greed.pods.get j)

/-! ### `TolerationQueue` -/

/-- `TolerationQueue`. -/
structure TolerationQueue where
  pods : List Pod

/-- `TolerationQueue.Less`: a pod with tolerations comes first whatever the other pod is. -/
def TolerationQueue.less (tol : TolerationQueue) (i _j : Fin tol.pods.length) : Bool :=
  (tol.pods.get i).hasTolerations

/-! ### `sort.Sort` -/

/-- Go's `sort.Sort` through `sort.Interface`: from `Len` and the table of `Less` on the
positions it picks the order the positions end in, its `Swap`s only carrying the data
along. The documented contract: the result is ascending, no position `Less` than an earlier
one, whenever `Less` is a strict weak order. Nothing is promised about equal elements. -/
structure SortSort where
  order : (n : Nat) → (Fin n → Fin n → Bool) → List (Fin n)
  perm : ∀ n less, (order n less).Perm (List.finRange n)
  sorted : ∀ n (less : Fin n → Fin n → Bool),
    IsStrictWeakOrder (Fin n) (fun i j => less i j = true) →
      (order n less).Sorted fun i j => less j i = false

/-- `sort.Sort` on the data `xs` with `Less(i, j) = lt xs[i] xs[j]`. -/
def SortSort.sortBy {α : Type} (srt : SortSort) (xs : List α) (lt : α → α → Bool) :
    List α :=
  (srt.order xs.length fun i j => lt (xs.get i) (xs.get j)).map xs.get

/-- `sort.Sort(greed)`: the queue with its pods in the order `sort.Sort` leaves them. -/
def GreedQueue.sort (srt : SortSort) (greed : GreedQueue) : GreedQueue :=
  { greed with pods := (srt.order greed.pods.length greed.less).map greed.pods.get }

/-- A `SortSort`: merge sort of the positions, each kept before a later one unless `Less`
puts the later one first. It shows the contract can be met. -/
def mergeSortSort : SortSort where
  order n less := (List.finRange n).mergeSort fun i j => !less j i
  perm _ _ := List.mergeSort_perm _ _
  sorted n less h := by
    have htrans : ∀ a b c : Fin n,
        (!less b a) = true → (!less c b) = true → (!less c a) = true := by
      simp only [Bool.not_eq_true', ← Bool.not_eq_true]
      intro a b c hba hcb hca
      have hbc : ¬ less b c = true := fun hbc => hba (h.trans b c a hbc hca)
      have hab : ¬ less a b = true := fun hab => hcb (h.trans c a b hca hab)
      exact (h.incomp_trans c b a ⟨hcb, hbc⟩ ⟨hba, hab⟩).1 hca
    have htotal : ∀ a b : Fin n, ((!less b a) || !less a b) = true := by
      intro a b
      by_contra hab
      simp only [Bool.or_eq_true, Bool.not_eq_true', not_or, Bool.not_eq_false] at hab
      exact h.irrefl a (h.trans a b a hab.2 hab.1)
    exact (List.sorted_mergeSort htrans htotal _).imp fun hab => by simpa using hab

end KubeSchedulerSim
