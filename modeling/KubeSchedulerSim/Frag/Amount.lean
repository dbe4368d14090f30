/-
Module: KubeSchedulerSim.Frag.Amount
Purpose: `NodeGpuShareFragAmount` and its score (src/pkg/utils/frag.go): for every typical
  pod, the node's free GPU millis, weighted by the pod's frequency, go to the category the
  pod sees. A `Q3Satisfied` pod splits them: the millis on GPUs too small for it go to
  `Q2LackGpu`, the rest to `Q3Satisfied`. `AddByFragType` refuses a negative amount and
  the caller ignores the refusal, so conservation needs every amount to be non-negative;
  the module proves it is, and that the seven slots together hold exactly `G` times the
  mass of the frequencies in `[0, 1]`. Against the deprecated `NodeGpuFragAmount`, which
  puts `G` times each frequency in the pod's slot, the share version only moves millis from
  `Q3Satisfied` to `Q2LackGpu`, so its score is never below the deprecated one.
Trusted boundary: none beyond the model.
Main exports: FragAmount, nodeGpuShareFragAmount, nodeGpuShareFragAmountScore,
  nodeGpuFragAmount, shareFragStep_data, nodeGpuShareFragAmount_conserves, q3Shift,
  nodeGpuShareFragAmount_refines
-/
import KubeSchedulerSim.Frag.Category

namespace KubeSchedulerSim

/-- `FragAmount`. -/
structure FragAmount where
  nodeName : String
  data : FragType → ℚ

/-- `NewFragAmount`. -/
def newFragAmount (nodeName : String) (data : FragType → ℚ) : FragAmount := ⟨nodeName, data⟩

/-- `FragAmount.AddByFragType`: refuses a negative amount. -/
def FragAmount.addByFragType (fa : FragAmount) (fragType : FragType) (amount : ℚ) :
    Except String FragAmount :=
  if amount < 0 then .error "bad freq" else .ok { fa with data := addAt fa.data fragType amount }

/-- `FragAmount.FragAmountSumExceptQ3`. -/
def FragAmount.fragAmountSumExceptQ3 (fa : FragAmount) : ℚ := sumExceptQ3 fa.data

/-- The seven slots together. -/
def FragAmount.total (fa : FragAmount) : ℚ := (FragType.all.map fa.data).sum

/-- `GetGpuFragMilliByNodeResAndPodRes`: the millis on the GPUs too small for the pod. -/
def getGpuFragMilliByNodeResAndPodRes (nodeRes : NodeResource) (podRes : PodResource) : Int :=
  (nodeRes.milliGpuLeftList.filter fun milliGpuLeft => milliGpuLeft < podRes.milliGpu).sum

/-- One pass of the loop of `NodeGpuShareFragAmount`; a refused `AddByFragType` leaves the
amount as it was. -/
def shareFragStep (nodeRes : NodeResource) (fragAmount : FragAmount) (pod : TargetPod) :
    FragAmount :=
  let freq := pod.percentage
  if freq < 0 ∨ freq > 1 then fragAmount
  else
    let fragType := getNodePodFrag nodeRes pod.targetPodResource
    let gpuMilliLeftTotal := getGpuMilliLeftTotal nodeRes
    if fragType = .q3Satisfied then
      let gpuFragMilli := getGpuFragMilliByNodeResAndPodRes nodeRes pod.targetPodResource
      let fa := (fragAmount.addByFragType .q2LackGpu (freq * gpuFragMilli)).toOption.getD
        fragAmount
      (fa.addByFragType .q3Satisfied (freq * (gpuMilliLeftTotal - gpuFragMilli : Int))).toOption.getD
        fa
    else (fragAmount.addByFragType fragType (freq * gpuMilliLeftTotal)).toOption.getD fragAmount

/-- `NodeGpuShareFragAmount`. -/
def nodeGpuShareFragAmount (nodeRes : NodeResource) (typicalPods : TargetPodList) : FragAmount :=
  typicalPods.foldl (shareFragStep nodeRes) (newFragAmount nodeRes.nodeName fun _ => 0)

/-- `NodeGpuShareFragAmountScore`: every slot but `Q3Satisfied`. -/
def nodeGpuShareFragAmountScore (nodeRes : NodeResource) (typicalPods : TargetPodList) : ℚ :=
  (nodeGpuShareFragAmount nodeRes typicalPods).fragAmountSumExceptQ3

/-- `GetFragAmountByNodeResAndFragRatio`: every frequency times the node's free GPU millis. -/
def getFragAmountByNodeResAndFragRatio (nodeRes : NodeResource) (fragRatio : FragRatio) :
    FragAmount :=
  newFragAmount nodeRes.nodeName fun t => fragRatio.data t * getGpuMilliLeftTotal nodeRes

/-- `NodeGpuFragAmount`, which the source deprecates for `NodeGpuShareFragAmount`. -/
def nodeGpuFragAmount (nodeRes : NodeResource) (typicalPods : TargetPodList) : FragAmount :=
  getFragAmountByNodeResAndFragRatio nodeRes (nodeGpuFragRatio nodeRes typicalPods)

/-! ### Slots -/

theorem addByFragType_of_nonneg {fa : FragAmount} {t : FragType} {x : ℚ} (hx : 0 ≤ x) :
    fa.addByFragType t x = .ok { fa with data := addAt fa.data t x } := by
  simp [FragAmount.addByFragType, not_lt.mpr hx]

theorem addAt_apply (data : FragType → ℚ) (t : FragType) (x : ℚ) (t' : FragType) :
    addAt data t x t' = data t' + if t' = t then x else 0 := by
  by_cases h : t' = t
  · subst h; simp [addAt]
  · simp [addAt, Function.update, h]

theorem total_addAt (data : FragType → ℚ) (t : FragType) (x : ℚ) :
    (FragType.all.map (addAt data t x)).sum = (FragType.all.map data).sum + x := by
  simp only [funext (addAt_apply data t x), List.sum_map_add, add_right_inj]
  cases t <;> simp [FragType.all]

theorem total_eq_sumExceptQ3_add (data : FragType → ℚ) :
    (FragType.all.map data).sum = sumExceptQ3 data + data .q3Satisfied := by
  simp [sumExceptQ3, FragType.all]; ring

theorem addAt_nonneg {data : FragType → ℚ} (h : ∀ t, 0 ≤ data t) {x : ℚ} (hx : 0 ≤ x)
    (t : FragType) : ∀ t', 0 ≤ addAt data t x t' := by
  intro t'
  by_cases ht : t' = t
  · subst ht; simpa [addAt] using add_nonneg (h t') hx
  · simpa [addAt, Function.update, ht] using h t'

/-! ### Conservation -/

theorem getGpuFragMilli_bounds {n : NodeResource} (hn : n.NonNeg) (p : PodResource) :
    0 ≤ getGpuFragMilliByNodeResAndPodRes n p ∧
      getGpuFragMilliByNodeResAndPodRes n p ≤ getGpuMilliLeftTotal n :=
  ⟨List.sum_nonneg fun x hx => hn x (List.mem_filter.mp hx).1,
    (List.filter_sublist _).sum_le_sum hn⟩

/-- The mass of the typical pods' frequencies that lie in `[0, 1]`. -/
def countedMass (pods : TargetPodList) : ℚ :=
  (pods.map fun pod => if 0 ≤ pod.percentage ∧ pod.percentage ≤ 1 then pod.percentage else 0).sum

/-- What one pass of `NodeGpuShareFragAmount` does on a node with no negative GPU: no
`AddByFragType` is refused, so a counted frequency moves the node's free millis to the pod's
slot, split between `Q2LackGpu` and `Q3Satisfied` for a satisfied pod. -/
theorem shareFragStep_data {n : NodeResource} (hn : n.NonNeg) (fa : FragAmount)
    (pod : TargetPod) :
    (shareFragStep n fa pod).data =
      if 0 ≤ pod.percentage ∧ pod.percentage ≤ 1 then
        if getNodePodFrag n pod.targetPodResource = .q3Satisfied then
          addAt (addAt fa.data .q2LackGpu
            (pod.percentage * getGpuFragMilliByNodeResAndPodRes n pod.targetPodResource))
            .q3Satisfied (pod.percentage * ((getGpuMilliLeftTotal n -
              getGpuFragMilliByNodeResAndPodRes n pod.targetPodResource : Int) : ℚ))
        else addAt fa.data (getNodePodFrag n pod.targetPodResource)
          (pod.percentage * getGpuMilliLeftTotal n)
      else fa.data := by
  unfold shareFragStep
  by_cases hp : 0 ≤ pod.percentage ∧ pod.percentage ≤ 1
  · have hf : ¬ (pod.percentage < 0 ∨ pod.percentage > 1) := by
      rintro (h | h) <;> linarith [hp.1, hp.2]
    obtain ⟨hfrag₀, hfrag₁⟩ := getGpuFragMilli_bounds hn pod.targetPodResource
    have hg : (0 : ℚ) ≤ getGpuMilliLeftTotal n :=
      Int.cast_nonneg.mpr (getGpuMilliLeftTotal_nonneg hn)
    have ha₁ : 0 ≤ pod.percentage * getGpuFragMilliByNodeResAndPodRes n pod.targetPodResource :=
      mul_nonneg hp.1 (Int.cast_nonneg.mpr hfrag₀)
    have ha₂ : 0 ≤ pod.percentage * ((getGpuMilliLeftTotal n -
        getGpuFragMilliByNodeResAndPodRes n pod.targetPodResource : Int) : ℚ) :=
      mul_nonneg hp.1 (Int.cast_nonneg.mpr (by omega))
    have ha : 0 ≤ pod.percentage * getGpuMilliLeftTotal n := mul_nonneg hp.1 hg
    simp only [hf, hp, if_false, if_true, and_self]
    split_ifs <;> simp only [addByFragType_of_nonneg ha₁, addByFragType_of_nonneg ha₂,
      addByFragType_of_nonneg ha, Except.toOption, Option.getD_some]
  · have hf : pod.percentage < 0 ∨ pod.percentage > 1 := by
      by_contra h; push_neg at h; exact hp h
    simp [hf, hp]

/-- One typical pod adds `G` times its frequency, when that frequency is in `[0, 1]`, and
only non-negative amounts. -/
theorem shareFragStep_spec {n : NodeResource} (hn : n.NonNeg) {fa : FragAmount}
    (hfa : ∀ t, 0 ≤ fa.data t) (pod : TargetPod) :
    (∀ t, 0 ≤ (shareFragStep n fa pod).data t) ∧
      (shareFragStep n fa pod).total = fa.total + getGpuMilliLeftTotal n *
        (if 0 ≤ pod.percentage ∧ pod.percentage ≤ 1 then pod.percentage else 0) := by
  unfold FragAmount.total
  rw [shareFragStep_data hn]
  have hg : (0 : ℚ) ≤ getGpuMilliLeftTotal n := Int.cast_nonneg.mpr (getGpuMilliLeftTotal_nonneg hn)
  split_ifs with hp
  · obtain ⟨hfrag₀, hfrag₁⟩ := getGpuFragMilli_bounds hn pod.targetPodResource
    refine ⟨addAt_nonneg (addAt_nonneg hfa (mul_nonneg hp.1 (Int.cast_nonneg.mpr hfrag₀)) _)
      (mul_nonneg hp.1 (Int.cast_nonneg.mpr (by omega))) _, ?_⟩
    rw [total_addAt, total_addAt]; push_cast; ring
  · exact ⟨addAt_nonneg hfa (mul_nonneg hp.1 hg) _, by rw [total_addAt]; ring⟩
  · exact ⟨hfa, by ring⟩

theorem shareFragStep_foldl {n : NodeResource} (hn : n.NonNeg) (pods : TargetPodList) :
    ∀ fa : FragAmount, (∀ t, 0 ≤ fa.data t) →
      (∀ t, 0 ≤ (pods.foldl (shareFragStep n) fa).data t) ∧
        (pods.foldl (shareFragStep n) fa).total =
          fa.total + getGpuMilliLeftTotal n * countedMass pods := by
  induction pods with
  | nil => intro fa hfa; simp [countedMass, hfa]
  | cons pod pods ih =>
    intro fa hfa
    obtain ⟨h₁, h₂⟩ := shareFragStep_spec hn hfa pod
    obtain ⟨h₃, h₄⟩ := ih _ h₁
    refine ⟨h₃, ?_⟩
    rw [List.foldl_cons, h₄, h₂]
    simp only [countedMass, List.map_cons, List.sum_cons]
    ring

/-- `NodeGpuShareFragAmount` conserves the node's free GPU millis: every slot is
non-negative and the slots hold `G` times the mass of the frequencies in `[0, 1]`; so the
score, every slot but `Q3Satisfied`, lies in `[0, G]` times that mass, and in `[0, G]`
when the mass is at most one. -/
theorem nodeGpuShareFragAmount_conserves {n : NodeResource} (hn : n.NonNeg)
    (P : TargetPodList) :
    (∀ t, 0 ≤ (nodeGpuShareFragAmount n P).data t) ∧
    (nodeGpuShareFragAmount n P).total = getGpuMilliLeftTotal n * countedMass P ∧
    0 ≤ nodeGpuShareFragAmountScore n P ∧
    nodeGpuShareFragAmountScore n P ≤ getGpuMilliLeftTotal n * countedMass P ∧
    (countedMass P ≤ 1 → nodeGpuShareFragAmountScore n P ≤ getGpuMilliLeftTotal n) := by
  obtain ⟨hnn, htot⟩ := shareFragStep_foldl hn P (newFragAmount n.nodeName fun _ => 0)
    (fun _ => le_refl 0)
  have hzero : (newFragAmount n.nodeName fun _ => 0).total = 0 := by
    simp [FragAmount.total, newFragAmount, FragType.all]
  rw [hzero, zero_add] at htot
  have hscore : nodeGpuShareFragAmountScore n P ≤ getGpuMilliLeftTotal n * countedMass P := by
    have := total_eq_sumExceptQ3_add (nodeGpuShareFragAmount n P).data
    have := hnn .q3Satisfied
    unfold nodeGpuShareFragAmountScore FragAmount.fragAmountSumExceptQ3
    unfold FragAmount.total at htot
    rw [nodeGpuShareFragAmount] at *
    linarith
  have hg : (0 : ℚ) ≤ getGpuMilliLeftTotal n := Int.cast_nonneg.mpr (getGpuMilliLeftTotal_nonneg hn)
  refine ⟨hnn, htot, sumExceptQ3_nonneg hnn, hscore, fun hm => hscore.trans ?_⟩
  exact mul_le_of_le_one_right hg hm

/-- A node with an idle GPU and a GPU with 300 millis left, against a 600-milli share pod:
the 300 millis are the `Q2LackGpu` fragment, the 1000 the `Q3Satisfied` remainder. -/
theorem nodeGpuShareFragAmount_conserves_twoGpu :
    let n : NodeResource := ⟨"node", 0, 0, [1000, 300], ""⟩
    let P : TargetPodList := [⟨⟨0, 0, 600, 1, ""⟩, 1⟩]
    n.NonNeg ∧
    ((∀ t, 0 ≤ (nodeGpuShareFragAmount n P).data t) ∧
    (nodeGpuShareFragAmount n P).total = getGpuMilliLeftTotal n * countedMass P ∧
    0 ≤ nodeGpuShareFragAmountScore n P ∧
    nodeGpuShareFragAmountScore n P ≤ getGpuMilliLeftTotal n * countedMass P ∧
    (countedMass P ≤ 1 → nodeGpuShareFragAmountScore n P ≤ getGpuMilliLeftTotal n)) :=
  ⟨by decide, nodeGpuShareFragAmount_conserves (by decide) _⟩

/-! ### Against the deprecated amount -/

/-- What one typical pod moves from `Q3Satisfied` to `Q2LackGpu` in `NodeGpuShareFragAmount`
against `NodeGpuFragAmount`: a counted pod the node satisfies moves its frequency times the
millis on the GPUs too small for it. -/
def q3ShiftTerm (n : NodeResource) (pod : TargetPod) : ℚ :=
  if 0 ≤ pod.percentage ∧ pod.percentage ≤ 1 ∧
      getNodePodFrag n pod.targetPodResource = .q3Satisfied then
    pod.percentage * getGpuFragMilliByNodeResAndPodRes n pod.targetPodResource
  else 0

/-- The moves of every typical pod. -/
def q3Shift (n : NodeResource) (typicalPods : TargetPodList) : ℚ :=
  (typicalPods.map (q3ShiftTerm n)).sum

/-- The slot offsets of a move of `c` millis from `Q3Satisfied` to `Q2LackGpu`. -/
def shiftQ3 (c : ℚ) (t : FragType) : ℚ :=
  if t = .q2LackGpu then c else if t = .q3Satisfied then -c else 0

theorem q3ShiftTerm_nonneg {n : NodeResource} (hn : n.NonNeg) (pod : TargetPod) :
    0 ≤ q3ShiftTerm n pod := by
  unfold q3ShiftTerm
  split_ifs with h
  · exact mul_nonneg h.1 (Int.cast_nonneg.mpr (getGpuFragMilli_bounds hn _).1)
  · exact le_rfl

/-- One pass of each loop keeps the share amount the deprecated one plus a move. -/
theorem shareFragStep_shift {n : NodeResource} (hn : n.NonNeg) {fa : FragAmount}
    {fr : FragRatio} {c : ℚ}
    (h : ∀ t, fa.data t = fr.data t * getGpuMilliLeftTotal n + shiftQ3 c t)
    (pod : TargetPod) (t : FragType) :
    (shareFragStep n fa pod).data t = (fragRatioStep n fr pod).data t * getGpuMilliLeftTotal n +
      shiftQ3 (c + q3ShiftTerm n pod) t := by
  rw [shareFragStep_data hn, fragRatioStep_data]
  by_cases hp : 0 ≤ pod.percentage ∧ pod.percentage ≤ 1
  · by_cases hq : getNodePodFrag n pod.targetPodResource = .q3Satisfied
    · have hterm : q3ShiftTerm n pod =
          pod.percentage * getGpuFragMilliByNodeResAndPodRes n pod.targetPodResource := by
        simp [q3ShiftTerm, hp, hq]
      rw [if_pos hp, if_pos hq, if_pos hp, hterm, hq, addAt_apply, addAt_apply, addAt_apply, h]
      unfold shiftQ3
      by_cases h2 : t = .q2LackGpu
      · subst h2; simp; ring
      · by_cases h3 : t = .q3Satisfied
        · subst h3; simp; ring
        · simp [h2, h3]
    · have hterm : q3ShiftTerm n pod = 0 := by simp [q3ShiftTerm, hq]
      rw [if_pos hp, if_neg hq, if_pos hp, hterm, add_zero, addAt_apply, addAt_apply, h]
      split_ifs <;> ring
  · have hterm : q3ShiftTerm n pod = 0 := if_neg fun h' => hp ⟨h'.1, h'.2.1⟩
    rw [if_neg hp, if_neg hp, hterm, add_zero, h]

theorem shareFragStep_foldl_shift {n : NodeResource} (hn : n.NonNeg) (pods : TargetPodList) :
    ∀ (fa : FragAmount) (fr : FragRatio) (c : ℚ),
      (∀ t, fa.data t = fr.data t * getGpuMilliLeftTotal n + shiftQ3 c t) →
      ∀ t, (pods.foldl (shareFragStep n) fa).data t =
        (pods.foldl (fragRatioStep n) fr).data t * getGpuMilliLeftTotal n +
          shiftQ3 (c + (pods.map (q3ShiftTerm n)).sum) t := by
  induction pods with
  | nil => intro fa fr c h t; simpa using h t
  | cons pod pods ih =>
    intro fa fr c h t
    simp only [List.foldl_cons, List.map_cons, List.sum_cons, ← add_assoc]
    exact ih _ _ _ (shareFragStep_shift hn h pod) t

/-- `NodeGpuShareFragAmount` against the deprecated `NodeGpuFragAmount`, on a node with no
negative GPU: the two agree on every slot but `Q2LackGpu` and `Q3Satisfied`, between which
the share version moves `q3Shift` millis, so its score is the deprecated amount's plus that
non-negative quantity. -/
theorem nodeGpuShareFragAmount_refines {n : NodeResource} (hn : n.NonNeg) (P : TargetPodList) :
    (∀ t, (nodeGpuShareFragAmount n P).data t =
      (nodeGpuFragAmount n P).data t + shiftQ3 (q3Shift n P) t) ∧
    nodeGpuShareFragAmountScore n P =
      (nodeGpuFragAmount n P).fragAmountSumExceptQ3 + q3Shift n P ∧
    0 ≤ q3Shift n P := by
  have hslots : ∀ t, (nodeGpuShareFragAmount n P).data t =
      (nodeGpuFragAmount n P).data t + shiftQ3 (q3Shift n P) t := by
    intro t
    have := shareFragStep_foldl_shift hn P (newFragAmount n.nodeName fun _ => 0) ⟨fun _ => 0⟩ 0
      (fun t => by simp [newFragAmount, shiftQ3]) t
    simpa [nodeGpuFragAmount, getFragAmountByNodeResAndFragRatio, newFragAmount,
      nodeGpuFragRatio, q3Shift] using this
  refine ⟨hslots, ?_, List.sum_nonneg ?_⟩
  · unfold nodeGpuShareFragAmountScore FragAmount.fragAmountSumExceptQ3
    rw [show (nodeGpuShareFragAmount n P).data = _ from funext hslots]
    simp [sumExceptQ3, FragType.all, shiftQ3]
    ring
  · simp only [List.mem_map]
    rintro _ ⟨pod, -, rfl⟩
    exact q3ShiftTerm_nonneg hn pod

theorem nodeGpuShareFragAmount_refines_sharedGpu :
    (⟨"node", 8000, 0, [1000, 400], ""⟩ : NodeResource).NonNeg ∧
    (∀ t, (nodeGpuShareFragAmount ⟨"node", 8000, 0, [1000, 400], ""⟩
        [⟨⟨1000, 0, 500, 1, ""⟩, 1⟩]).data t =
      (nodeGpuFragAmount ⟨"node", 8000, 0, [1000, 400], ""⟩ [⟨⟨1000, 0, 500, 1, ""⟩, 1⟩]).data t +
        shiftQ3 (q3Shift ⟨"node", 8000, 0, [1000, 400], ""⟩ [⟨⟨1000, 0, 500, 1, ""⟩, 1⟩]) t) ∧
    nodeGpuShareFragAmountScore ⟨"node", 8000, 0, [1000, 400], ""⟩ [⟨⟨1000, 0, 500, 1, ""⟩, 1⟩] =
      (nodeGpuFragAmount ⟨"node", 8000, 0, [1000, 400], ""⟩
          [⟨⟨1000, 0, 500, 1, ""⟩, 1⟩]).fragAmountSumExceptQ3 +
        q3Shift ⟨"node", 8000, 0, [1000, 400], ""⟩ [⟨⟨1000, 0, 500, 1, ""⟩, 1⟩] ∧
    0 ≤ q3Shift ⟨"node", 8000, 0, [1000, 400], ""⟩ [⟨⟨1000, 0, 500, 1, ""⟩, 1⟩] :=
  ⟨by decide, nodeGpuShareFragAmount_refines (by decide) _⟩

end KubeSchedulerSim
