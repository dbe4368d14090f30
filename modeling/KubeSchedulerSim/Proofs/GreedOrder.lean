/-
Module: KubeSchedulerSim.Proofs.GreedOrder
Purpose: What `GreedQueue.Less` is and what `sort.Sort` makes of it. On pods with no node
  name `Less` compares dominant shares: a strict weak order, not a total one, since pods of
  equal share are incomparable. Every bound pod is `Less` than every unbound pod. So any
  `SortSort` lists a queue of unbound pods by non-increasing share, and sorting any
  permutation of the queue gives a permutation of that result with the same share sequence;
  which of two equal-share pods comes first can depend on the input order. Along the way:
  `calculatePodShare` does not depend on the order `range` visits `totalResource` in, and
  each queue's `Less` table is a strict weak order exactly when no pod takes the branch
  that answers `true` whatever the other pod is.
Trusted boundary: as KubeSchedulerSim.Algo.Greed.
Main exports: SortSort.sortBy_perm, SortSort.sortBy_sorted,
  GreedQueue.calculatePodShare_perm, GreedQueue.podLess_isStrictWeakOrder,
  GreedQueue.less_isStrictWeakOrder_iff, TolerationQueue.less_isStrictWeakOrder_iff,
  greedQueue_order_by_dominant_share, greedQueue_sort_depends_on_input_order
-/
import KubeSchedulerSim.Algo.Greed
import Mathlib.Tactic.FinCases
import Mathlib.Tactic.NormNum

namespace KubeSchedulerSim

/-! ### Strict weak orders and `sort.Sort` -/

/-- A strict weak order pulled back along a map. -/
theorem isStrictWeakOrder_comap {α β : Type} {r : α → α → Prop} [IsStrictWeakOrder α r]
    (f : β → α) : IsStrictWeakOrder β fun a b => r (f a) (f b) where
  irrefl a := irrefl (f a)
  trans a b c := IsTrans.trans (f a) (f b) (f c)
  incomp_trans a b c := IsStrictWeakOrder.incomp_trans (f a) (f b) (f c)

section SortSort

variable {α : Type} (srt : SortSort) (xs : List α) (lt : α → α → Bool)

/-- `sort.Sort` only rearranges the data. -/
theorem SortSort.sortBy_perm : (srt.sortBy xs lt).Perm xs := by
  simpa only [List.finRange_map_get] using
    (srt.perm xs.length fun i j => lt (xs.get i) (xs.get j)).map xs.get

/-- `sort.Sort` leaves the data ascending when `Less` on its positions is a strict weak
order. -/
theorem SortSort.sortBy_sorted
    (h : IsStrictWeakOrder (Fin xs.length) fun i j => lt (xs.get i) (xs.get j) = true) :
    (srt.sortBy xs lt).Sorted fun a b => lt b a = false :=
  List.pairwise_map.2 (srt.sorted _ _ h)

/-- With no element `Less` than another, the order `sort.Sort` picks depends on the length
alone. -/
theorem SortSort.sortBy_of_incomparable (h : ∀ a ∈ xs, ∀ b ∈ xs, lt a b = false) :
    srt.sortBy xs lt = (srt.order xs.length fun _ _ => false).map xs.get := by
  unfold SortSort.sortBy
  congr
  funext i j
  exact h _ (List.get_mem _ _ _) _ (List.get_mem _ _ _)

end SortSort

/-! ### `calculatePodShare` -/

theorem GreedQueue.shareStep_eq_max (podReq : ResourceList) (res : ℚ) (entry : String × ℚ) :
    shareStep podReq res entry = max res (share ((podReq.lookup entry.1).getD 0) entry.2) := by
  rw [max_def_lt]
  rfl

/-- `calculatePodShare` does not depend on the order `range` visits `totalResource` in. -/
theorem GreedQueue.calculatePodShare_perm {greed greed' : GreedQueue}
    (h : greed.totalResource.Perm greed'.totalResource) (pod : Pod) :
    greed.calculatePodShare pod = greed'.calculatePodShare pod := by
  dsimp only [calculatePodShare]
  split_ifs
  · rfl
  · exact h.foldl_eq' (fun _ _ _ _ _ => by simp only [shareStep_eq_max, sup_right_comm]) 0

theorem GreedQueue.calculatePodShare_perm_swapped :
    [(resourceCPU, (4 : ℚ)), (resourceMemory, 8)].Perm [(resourceMemory, 8), (resourceCPU, 4)] ∧
      (⟨[], [(resourceCPU, 4), (resourceMemory, 8)]⟩ : GreedQueue).calculatePodShare
          ⟨"", false, [(resourceCPU, 2)]⟩ =
        (⟨[], [(resourceMemory, 8), (resourceCPU, 4)]⟩ : GreedQueue).calculatePodShare
          ⟨"", false, [(resourceCPU, 2)]⟩ :=
  ⟨List.Perm.swap _ _ _, GreedQueue.calculatePodShare_perm (List.Perm.swap _ _ _) _⟩

/-- The loop of `NewGreedQueue`: each pass adds the node's allocatable CPU and memory. -/
theorem foldl_allocatable {F : ℚ × ℚ → Node → ℚ × ℚ}
    (hF : ∀ cpu memory node, F (cpu, memory) node =
      (cpu + node.allocatableCpu, memory + node.allocatableMemory))
    (nodes : List Node) (cpu memory : ℚ) :
    nodes.foldl F (cpu, memory) =
      (cpu + (nodes.map (·.allocatableCpu)).sum,
        memory + (nodes.map (·.allocatableMemory)).sum) := by
  induction nodes generalizing cpu memory with
  | nil => simp
  | cons node nodes ih => simp [hF, ih, add_assoc]

/-- `NewGreedQueue` totals the nodes' allocatable CPU and memory. -/
theorem newGreedQueue_totalResource (nodes : List Node) (pods : List Pod) :
    (newGreedQueue nodes pods).totalResource =
      [(resourceCPU, (nodes.map (·.allocatableCpu)).sum),
        (resourceMemory, (nodes.map (·.allocatableMemory)).sum)] := by
  unfold newGreedQueue
  rw [foldl_allocatable fun _ _ _ => rfl]
  simp

/-- In a queue from `NewGreedQueue`, a pod's dominant share is `0` when it requests
nothing, and otherwise the largest of `0`, its CPU share and its memory share of the
cluster's summed allocatable resources: requests of any other resource, GPUs included,
never count. -/
theorem newGreedQueue_calculatePodShare (nodes : List Node) (pods : List Pod) (pod : Pod) :
    (newGreedQueue nodes pods).calculatePodShare pod =
      if pod.requests = [] then 0
      else max 0 (max
        (share ((pod.requests.lookup resourceCPU).getD 0) (nodes.map (·.allocatableCpu)).sum)
        (share ((pod.requests.lookup resourceMemory).getD 0)
          (nodes.map (·.allocatableMemory)).sum)) := by
  simp only [GreedQueue.calculatePodShare, newGreedQueue_totalResource, List.length_eq_zero,
    List.foldl_cons, List.foldl_nil, GreedQueue.shareStep_eq_max, max_assoc]

/-! ### `GreedQueue.Less` -/

theorem stringLength_eq_zero {s : String} : s.length = 0 ↔ s = "" := by
  rw [String.ext_iff]
  exact List.length_eq_zero

section Greed

variable (greed : GreedQueue)

/-- A pod with a node name is `Less` than every pod, itself included. -/
theorem GreedQueue.podLess_of_bound {b : Pod} (hb : b.nodeName ≠ "") (q : Pod) :
    greed.podLess b q = true := by
  simp [podLess, stringLength_eq_zero, hb]

theorem GreedQueue.podLess_unbound_bound {u b : Pod} (hu : u.nodeName = "")
    (hb : b.nodeName ≠ "") : greed.podLess u b = false := by
  simp [podLess, stringLength_eq_zero, hu, hb]

/-- On unbound pods `Less` is "larger dominant share". -/
theorem GreedQueue.podLess_unbound {p q : Pod} (hp : p.nodeName = "") (hq : q.nodeName = "") :
    greed.podLess p q = decide (greed.calculatePodShare q < greed.calculatePodShare p) := by
  simp [podLess, hp, hq]

/-- On unbound pods `Less` is a strict weak order: dominant shares, compared downwards. -/
theorem GreedQueue.podLess_isStrictWeakOrder :
    IsStrictWeakOrder {p : Pod // p.nodeName = ""} fun p q => greed.podLess p.1 q.1 = true := by
  have h : (fun p q : {p : Pod // p.nodeName = ""} => greed.podLess p.1 q.1 = true) =
      fun p q => OrderDual.toDual (greed.calculatePodShare p.1) <
        OrderDual.toDual (greed.calculatePodShare q.1) := by
    funext p q
    simp [greed.podLess_unbound p.2 q.2]
  rw [h]
  exact isStrictWeakOrder_comap _

/-- `Less` on the queue's positions is a strict weak order exactly when no pod has a node
name: a bound pod is `Less` than itself. -/
theorem GreedQueue.less_isStrictWeakOrder_iff :
    IsStrictWeakOrder (Fin greed.pods.length) (fun i j => greed.less i j = true) ↔
      ∀ p ∈ greed.pods, p.nodeName = "" := by
  constructor
  · intro h p hp
    by_contra hb
    obtain ⟨i, rfl⟩ := List.get_of_mem hp
    exact h.irrefl i (greed.podLess_of_bound hb _)
  · intro h
    exact @isStrictWeakOrder_comap _ _ _ greed.podLess_isStrictWeakOrder
      fun i => ⟨greed.pods.get i, h _ (List.get_mem _ _ _)⟩

variable (srt : SortSort)

/-- `sort.Sort` over the queue only rearranges its pods. -/
theorem GreedQueue.sort_perm : (greed.sort srt).pods.Perm greed.pods :=
  srt.sortBy_perm _ _

/-- `sort.Sort` lists a queue of unbound pods by non-increasing dominant share. -/
theorem GreedQueue.sort_shares_sorted (h : ∀ p ∈ greed.pods, p.nodeName = "") :
    ((greed.sort srt).pods.map greed.calculatePodShare).Sorted (· ≥ ·) := by
  have hsorted := srt.sortBy_sorted greed.pods greed.podLess
    ((greed.less_isStrictWeakOrder_iff).2 h)
  have hu : ∀ p ∈ (greed.sort srt).pods, p.nodeName = "" :=
    fun p hp => h p ((greed.sort_perm srt).subset hp)
  refine List.pairwise_map.2 (hsorted.imp_of_mem fun ha hb hab => ?_)
  rw [greed.podLess_unbound (hu _ hb) (hu _ ha), decide_eq_false_iff_not, not_lt] at hab
  exact hab

/-- Sorting any permutation of a queue of unbound pods gives a permutation of the sorted
queue with the same sequence of dominant shares. -/
theorem GreedQueue.sort_perm_shares_eq {ys : List Pod} (h : ∀ p ∈ greed.pods, p.nodeName = "")
    (hys : ys.Perm greed.pods) :
    ({ greed with pods := ys }.sort srt).pods.Perm (greed.sort srt).pods ∧
      ({ greed with pods := ys }.sort srt).pods.map greed.calculatePodShare =
        (greed.sort srt).pods.map greed.calculatePodShare := by
  have hperm := ((GreedQueue.sort_perm { greed with pods := ys } srt).trans hys).trans
    (greed.sort_perm srt).symm
  refine ⟨hperm, List.eq_of_perm_of_sorted (hperm.map _) ?_ (greed.sort_shares_sorted srt h)⟩
  exact GreedQueue.sort_shares_sorted { greed with pods := ys } srt fun p hp => h p (hys.subset hp)

end Greed

/-! ### `TolerationQueue.Less` -/

/-- `TolerationQueue.Less` on the queue's positions is a strict weak order exactly when no
pod has tolerations, when it holds nowhere: the contract of `sort.Sort` never promises to
move pods with tolerations first. -/
theorem TolerationQueue.less_isStrictWeakOrder_iff (tol : TolerationQueue) :
    IsStrictWeakOrder (Fin tol.pods.length) (fun i j => tol.less i j = true) ↔
      ∀ p ∈ tol.pods, p.hasTolerations = false := by
  constructor
  · intro h p hp
    obtain ⟨i, rfl⟩ := List.get_of_mem hp
    simpa [less] using h.irrefl i
  · intro h
    have hfalse : ∀ i j, tol.less i j = false := fun i _ => h _ (List.get_mem _ _ _)
    exact { irrefl := by simp [hfalse], trans := by simp [hfalse],
            incomp_trans := by simp [hfalse] }

/-! ### The order `sort.Sort` reaches -/

/-- A pod asking for half the CPU of a node with 4 CPUs and 8 of memory. -/
def cpuHalfPod : Pod := ⟨"", false, [(resourceCPU, 2)]⟩

/-- A pod asking for half the memory of that node. -/
def memoryHalfPod : Pod := ⟨"", false, [(resourceMemory, 4)]⟩

/-- A pod already bound to a node. -/
def boundPod : Pod := ⟨"node-1", false, []⟩

/-- The greed queue of the two half pods on that node. -/
def halfPodsQueue : GreedQueue := newGreedQueue [⟨4, 8⟩] [cpuHalfPod, memoryHalfPod]

theorem halfPodsQueue_shares :
    halfPodsQueue.calculatePodShare cpuHalfPod = 1 / 2 ∧
      halfPodsQueue.calculatePodShare memoryHalfPod = 1 / 2 := by
  have hcpu : List.lookup "memory" [("cpu", (2 : ℚ))] = none := rfl
  have hmemory : List.lookup "cpu" [("memory", (4 : ℚ))] = none := rfl
  norm_num [hcpu, hmemory, halfPodsQueue, newGreedQueue, GreedQueue.calculatePodShare,
    GreedQueue.shareStep, share, cpuHalfPod, memoryHalfPod, resourceCPU, resourceMemory]

/-- Every bound pod is `Less` than every unbound one; on unbound pods `Less` is "larger
dominant share", a strict weak order; and for a queue of unbound pods, every `sort.Sort`
lists them by non-increasing share, the same share sequence for every permutation of the
queue. -/
theorem greedQueue_order_by_dominant_share (greed : GreedQueue) :
    (∀ b u : Pod, b.nodeName ≠ "" → u.nodeName = "" →
      greed.podLess b u = true ∧ greed.podLess u b = false) ∧
    (∀ p q : Pod, p.nodeName = "" → q.nodeName = "" →
      (greed.podLess p q = true ↔ greed.calculatePodShare q < greed.calculatePodShare p)) ∧
    IsStrictWeakOrder {p : Pod // p.nodeName = ""} (fun p q => greed.podLess p.1 q.1 = true) ∧
    ∀ (srt : SortSort) (ys : List Pod), (∀ p ∈ greed.pods, p.nodeName = "") →
      ys.Perm greed.pods →
      ((greed.sort srt).pods.map greed.calculatePodShare).Sorted (· ≥ ·) ∧
      ({ greed with pods := ys }.sort srt).pods.Perm (greed.sort srt).pods ∧
      ({ greed with pods := ys }.sort srt).pods.map greed.calculatePodShare =
        (greed.sort srt).pods.map greed.calculatePodShare :=
  ⟨fun _ _ hb hu => ⟨greed.podLess_of_bound hb _, greed.podLess_unbound_bound hu hb⟩,
    fun _ _ hp hq => by rw [greed.podLess_unbound hp hq, decide_eq_true_iff],
    greed.podLess_isStrictWeakOrder,
    fun srt _ h hys => ⟨greed.sort_shares_sorted srt h, greed.sort_perm_shares_eq srt h hys⟩⟩

theorem greedQueue_order_by_dominant_share_halfPods :
    boundPod.nodeName ≠ "" ∧ cpuHalfPod.nodeName = "" ∧
    halfPodsQueue.podLess boundPod cpuHalfPod = true ∧
    halfPodsQueue.podLess cpuHalfPod boundPod = false ∧
    (∀ p ∈ halfPodsQueue.pods, p.nodeName = "") ∧
    [memoryHalfPod, cpuHalfPod].Perm halfPodsQueue.pods ∧
    ((halfPodsQueue.sort mergeSortSort).pods.map halfPodsQueue.calculatePodShare).Sorted
      (· ≥ ·) ∧
    ({ halfPodsQueue with pods := [memoryHalfPod, cpuHalfPod] }.sort mergeSortSort).pods.map
        halfPodsQueue.calculatePodShare =
      (halfPodsQueue.sort mergeSortSort).pods.map halfPodsQueue.calculatePodShare := by
  have hb : boundPod.nodeName ≠ "" := by decide
  have hc : cpuHalfPod.nodeName = "" := rfl
  have hu : ∀ p ∈ halfPodsQueue.pods, p.nodeName = "" := by
    simp [halfPodsQueue, newGreedQueue, cpuHalfPod, memoryHalfPod]
  have hp : [memoryHalfPod, cpuHalfPod].Perm halfPodsQueue.pods := List.Perm.swap _ _ _
  have h := greedQueue_order_by_dominant_share halfPodsQueue
  exact ⟨hb, hc, (h.1 _ _ hb hc).1, (h.1 _ _ hb hc).2, hu, hp,
    (h.2.2.2 mergeSortSort _ hu hp).1, (h.2.2.2 mergeSortSort _ hu hp).2.2⟩

/-- A bound pod is `Less` than itself; the two half pods are distinct and neither is `Less`
than the other; and whatever `sort.Sort` does, the queue and its swap sort to different
sequences. -/
theorem greedQueue_sort_depends_on_input_order :
    halfPodsQueue.podLess boundPod boundPod = true ∧
    cpuHalfPod ≠ memoryHalfPod ∧
    halfPodsQueue.podLess cpuHalfPod memoryHalfPod = false ∧
    halfPodsQueue.podLess memoryHalfPod cpuHalfPod = false ∧
    ∀ srt : SortSort, (halfPodsQueue.sort srt).pods ≠
      ({ halfPodsQueue with pods := [memoryHalfPod, cpuHalfPod] }.sort srt).pods := by
  have hne : cpuHalfPod ≠ memoryHalfPod := by decide
  have hhalf : ∀ p ∈ [cpuHalfPod, memoryHalfPod],
      p.nodeName = "" ∧ halfPodsQueue.calculatePodShare p = 1 / 2 := by
    simp only [List.mem_cons, List.not_mem_nil, or_false, forall_eq_or_imp, forall_eq]
    exact ⟨⟨rfl, halfPodsQueue_shares.1⟩, rfl, halfPodsQueue_shares.2⟩
  have htie : ∀ p ∈ [cpuHalfPod, memoryHalfPod], ∀ q ∈ [cpuHalfPod, memoryHalfPod],
      halfPodsQueue.podLess p q = false := fun p hp q hq => by
    rw [halfPodsQueue.podLess_unbound (hhalf p hp).1 (hhalf q hq).1, (hhalf p hp).2,
      (hhalf q hq).2]
    exact decide_eq_false (lt_irrefl _)
  have hswap : [memoryHalfPod, cpuHalfPod].Perm [cpuHalfPod, memoryHalfPod] :=
    List.Perm.swap _ _ _
  refine ⟨halfPodsQueue.podLess_of_bound (by decide) _, hne, htie _ (by simp) _ (by simp),
    htie _ (by simp) _ (by simp), fun srt h => ?_⟩
  have hsort : (halfPodsQueue.sort srt).pods =
      srt.sortBy [cpuHalfPod, memoryHalfPod] halfPodsQueue.podLess := rfl
  have hsort' : ({ halfPodsQueue with pods := [memoryHalfPod, cpuHalfPod] }.sort srt).pods =
      srt.sortBy [memoryHalfPod, cpuHalfPod] halfPodsQueue.podLess := rfl
  rw [hsort, hsort', SortSort.sortBy_of_incomparable _ _ _ htie,
    SortSort.sortBy_of_incomparable _ _ _
      fun p hp q hq => htie p (hswap.subset hp) q (hswap.subset hq)] at h
  obtain ⟨i, j, ho⟩ := List.length_eq_two.1
    ((srt.perm 2 fun _ _ => false).length_eq.trans (List.length_finRange 2))
  change (srt.order 2 fun _ _ => false).map [cpuHalfPod, memoryHalfPod].get =
    (srt.order 2 fun _ _ => false).map [memoryHalfPod, cpuHalfPod].get at h
  simp only [ho, List.map_cons, List.cons.injEq] at h
  fin_cases i
  · exact hne h.1
  · exact hne h.1.symm

end KubeSchedulerSim
