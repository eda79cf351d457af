import Caphv.PoolOwnership

namespace Caphv.Cluster

def record (cs : Conditions) : Option Condition := cs.lookup "VMIPPoolCreatedByController"

theorem vmPoolOwned_of_record {cs cs' : Conditions} (h : record cs' = record cs) :
    vmPoolOwned cs' = vmPoolOwned cs := Conditions.isTrue_lookup h

/-- A patch onto what its writer has read stores the writer's record. -/
theorem record_merge {b a latest cs : Conditions} (h : Conditions.merge b a latest = some cs)
    (hsync : record latest = record b) : record cs = record a := by
  refine (Conditions.lookup_merge h _).trans ?_
  split_ifs with hba
  · exact hsync.trans hba
  · rfl

def UnsetRef (k : ObjectKey) (spec : HarvesterClusterSpec) : Prop :=
  ∀ ref ∈ spec.vmNetworkConfig.map VMNetworkConfig.ipPoolRef, ref = "" ∨ ref = k.vmPoolName

instance (k : ObjectKey) (spec : HarvesterClusterSpec) : Decidable (UnsetRef k spec) :=
  inferInstanceAs (Decidable (∀ ref ∈ _, _))

theorem View.Normal.of_cluster {u u' : View} {c : HarvesterCluster} (h : u.Normal c)
    (hu : u'.cluster = u.cluster) : u'.Normal c := ⟨hu.trans h.cluster, h.alive, h.protected_⟩

theorem View.Deleting.of_cluster {u u' : View} {c : HarvesterCluster} (h : u.Deleting c)
    (hu : u'.cluster = u.cluster) : u'.Deleting c := ⟨hu.trans h.cluster, h.deleting⟩

theorem View.Normal.not_deleting {u : View} {c c' : HarvesterCluster} (h : u.Normal c)
    (h' : u.Deleting c') : False := by
  obtain rfl := Option.some.inj (h.cluster.symm.trans h'.cluster)
  exact Bool.false_ne_true (h.alive.symm.trans h'.deleting)

/-- The pool of the VMs of cluster `k` is still to be deleted. -/
def OwesVMPool (w : World) (k : ObjectKey) : Prop := (k, k.vmPoolName) ∈ w.owed

instance (w : World) (k : ObjectKey) : Decidable (OwesVMPool w k) :=
  inferInstanceAs (Decidable (_ ∈ _))

def conditionsFailed : (r : Req) → Resp r → Bool
  | .patchConditions _ _, .error _ => true
  | _, _ => false

/-- A pool that is still to be deleted is on record, in the stored cluster or in the pass that
has just created it; a deletion has read the record. -/
structure Tracked (k : ObjectKey) (w : World) (u : View) : Prop where
  stored : ∀ c, w.clusters.lookup k = some c → UnsetRef k c.spec
  read : ∀ c, u.cluster = some c → UnsetRef k c.spec
  normal : ∀ c, u.Normal c → Protected w k
  sync : ∀ c c₀, u.cluster = some c → u.sent = false → w.clusters.lookup k = some c₀ →
    OwesVMPool w k ∨ u.Normal c → record c₀.status.conditions = record c.status.conditions
  owed : OwesVMPool w k → k.vmPoolName = k.lbPoolName ∨
    (∀ c, w.clusters.lookup k = some c → vmPoolOwned c.status.conditions = true) ∨
    k.vmPoolName ∈ u.created ∧ u.sent = false
  deleting : ∀ c, u.Deleting c → OwesVMPool w k →
    k.vmPoolName = k.lbPoolName ∨ vmPoolOwned c.status.conditions = true
  created : ∀ n ∈ u.created, ∃ c, u.Normal c
  removed : ∀ n ∈ u.removed, (∃ c, u.Deleting c) ∧ n ≠ "" ∧ (k, n) ∉ w.owed

namespace Tracked

variable {k j : ObjectKey} {w w' : World} {u u' : View} {c c' c₀ : HarvesterCluster}

/-- Nothing that the invariant is about has changed. -/
theorem frame (h : Tracked k w u) (hc : w'.clusters.lookup k = w.clusters.lookup k)
    (ho : ∀ n, (k, n) ∈ w'.owed ↔ (k, n) ∈ w.owed) (hu : u'.cluster = u.cluster)
    (hcreated : u'.created = u.created) (hremoved : u'.removed = u.removed)
    (hsent : u'.sent = u.sent) : Tracked k w' u' where
  stored c hs := h.stored c (hc ▸ hs)
  read c hr := h.read c (hu ▸ hr)
  normal c hn := by
    unfold Protected
    rw [hc]
    exact h.normal c (hn.of_cluster hu.symm)
  sync c c₀ hr hs hs₀ hw := h.sync c c₀ (hu ▸ hr) (hsent ▸ hs) (hc ▸ hs₀)
    (hw.imp (ho _).mp fun hn => hn.of_cluster hu.symm)
  owed hw := by
    rw [hc, hcreated, hsent]
    exact h.owed ((ho _).mp hw)
  deleting c hd hw := h.deleting c (hd.of_cluster hu.symm) ((ho _).mp hw)
  created n hn := by
    obtain ⟨c, hc⟩ := h.created n (hcreated ▸ hn)
    exact ⟨c, hc.of_cluster hu⟩
  removed n hn := by
    obtain ⟨⟨c, hc⟩, hne, hw⟩ := h.removed n (hremoved ▸ hn)
    exact ⟨⟨c, hc.of_cluster hu⟩, hne, fun hw' => hw ((ho n).mp hw')⟩

/-- Before the first pass nothing is to be deleted. -/
theorem start (hrefs : ∀ c, w.clusters.lookup k = some c → UnsetRef k c.spec)
    (howed : ¬ OwesVMPool w k) : Tracked k w .fresh where
  stored := hrefs
  read _ hr := nomatch hr
  normal _ hn := nomatch hn.cluster
  sync _ _ hr := nomatch hr
  owed hw := absurd hw howed
  deleting _ hd := nomatch hd.cluster
  created _ hn := nomatch hn
  removed _ hn := nomatch hn

/-- A pass starts when the last one has its record sent. -/
theorem fresh (h : Tracked k w u) (hd : u.Done k) : Tracked k w .fresh where
  stored := h.stored
  read _ hr := nomatch hr
  normal _ hn := nomatch hn.cluster
  sync _ _ hr := nomatch hr
  owed hw := by
    rcases h.owed hw with hname | hstored | ⟨hcreated, hunsent⟩
    · exact Or.inl hname
    · exact Or.inr (Or.inl hstored)
    · rcases hd hcreated with hname | hsent | ⟨c, hc, howned⟩
      · exact Or.inl hname
      · rw [hunsent] at hsent
        cases hsent
      · refine Or.inr (Or.inl fun c₀ hs₀ => ?_)
        exact (vmPoolOwned_of_record (h.sync c c₀ hc hunsent hs₀ (Or.inl hw))).trans howned
  deleting _ hd := nomatch hd.cluster
  created _ hn := nomatch hn
  removed _ hn := nomatch hn

/-- The first read: the pass has done nothing yet. -/
theorem read_cluster (h : Tracked k w u) (hs : w.clusters.lookup k = some c)
    (hfirst : u.cluster = none) : Tracked k w { u with cluster := some c } := by
  have hcreated : ∀ n, n ∉ u.created := fun n hn => by
    obtain ⟨c', hc'⟩ := h.created n hn
    exact nomatch hfirst.symm.trans hc'.cluster
  have hremoved : ∀ n, n ∉ u.removed := fun n hn => by
    obtain ⟨⟨c', hc'⟩, -⟩ := h.removed n hn
    exact nomatch hfirst.symm.trans hc'.cluster
  refine ⟨h.stored, ?_, ?_, ?_, h.owed, ?_, fun n hn => absurd hn (hcreated n),
    fun n hn => absurd hn (hremoved n)⟩
  · intro c' hc'
    obtain rfl := Option.some.inj hc'
    exact h.stored c hs
  · intro c' hn
    obtain rfl := Option.some.inj hn.cluster
    exact ⟨c, hs, hn.protected_⟩
  · intro c' c₀ hc' _ hs₀ _
    obtain rfl := Option.some.inj hc'
    obtain rfl := Option.some.inj (hs.symm.trans hs₀)
    rfl
  · intro c' hd hw
    obtain rfl := Option.some.inj hd.cluster
    rcases h.owed hw with hname | hstored | ⟨hn, -⟩
    · exact Or.inl hname
    · exact Or.inr (hstored c hs)
    · exact absurd hn (hcreated _)

/-- A pool that is created is to be deleted, and the pass will record it. -/
theorem createPool (h : Tracked k w u) (hphase : u.Normal c) (hunsent : u.sent = false)
    {w' : World} {n : String} (hc : w'.clusters = w.clusters)
    (ho : w'.owed = (k, n) :: w.owed) : Tracked k w' { u with created := n :: u.created } where
  stored c₀ hs := h.stored c₀ (hc ▸ hs)
  read := h.read
  normal c' hn := by
    unfold Protected
    rw [hc]
    exact h.normal c' (hn.of_cluster rfl)
  sync c' c₀ hr hs hs₀ _ := by
    obtain rfl := Option.some.inj (hphase.cluster.symm.trans hr)
    exact h.sync c c₀ hr hs (hc ▸ hs₀) (Or.inr hphase)
  owed hw := by
    by_cases hn : k.vmPoolName = n
    · exact Or.inr (Or.inr ⟨hn ▸ List.mem_cons_self, hunsent⟩)
    · have hw' : OwesVMPool w k := by
        unfold OwesVMPool at hw
        rw [ho] at hw
        exact (List.mem_cons.mp hw).resolve_left fun heq => hn (Prod.mk.inj heq).2
      rw [hc]
      exact (h.owed hw').imp_right fun hw => hw.imp_right fun hw =>
        ⟨List.mem_cons_of_mem _ hw.1, hw.2⟩
  deleting c' hd _ := (hphase.not_deleting (hd.of_cluster rfl)).elim
  created _ _ := ⟨c, hphase.of_cluster rfl⟩
  removed m hm := by
    obtain ⟨⟨c', hc'⟩, -⟩ := h.removed m hm
    exact (hphase.not_deleting hc').elim

/-- A pool that is gone is no longer to be deleted. -/
theorem deletePool (h : Tracked k w u) (hphase : u.Deleting c) {w' : World} {n : String}
    (hn : n ≠ "") (hc : w'.clusters = w.clusters)
    (ho : w'.owed = w.owed.filter (· ≠ (k, n))) :
    Tracked k w' { u with removed := n :: u.removed } := by
  have hless : ∀ m, (k, m) ∈ w'.owed → (k, m) ∈ w.owed := fun m hm => by
    rw [ho] at hm
    exact (List.mem_filter.mp hm).1
  refine ⟨fun c₀ hs => h.stored c₀ (hc ▸ hs), h.read, ?_, ?_, ?_, ?_, ?_, ?_⟩
  · intro c' hn
    unfold Protected
    rw [hc]
    exact h.normal c' (hn.of_cluster rfl)
  · exact fun c' c₀ hr hs hs₀ hw => h.sync c' c₀ hr hs (hc ▸ hs₀)
      (hw.imp (hless _) fun hn => hn.of_cluster rfl)
  · intro hw
    rw [hc]
    exact h.owed (hless _ hw)
  · exact fun c' hd hw => h.deleting c' (hd.of_cluster rfl) (hless _ hw)
  · intro m hm
    obtain ⟨c', hc'⟩ := h.created m hm
    exact (hc'.not_deleting hphase).elim
  · intro m hm
    refine ⟨⟨c, hphase.of_cluster rfl⟩, ?_⟩
    rcases List.mem_cons.mp hm with rfl | hm
    · refine ⟨hn, fun hmem => ?_⟩
      rw [ho] at hmem
      exact (of_decide_eq_true (List.mem_filter.mp hmem).2) rfl
    · exact ⟨(h.removed m hm).2.1, fun hmem => (h.removed m hm).2.2 (hless m hmem)⟩

/-- A pool of the VMs that was found gone is not to be deleted. -/
theorem not_owed_of_removed (h : Tracked k w u) (hc : u.cluster = some c)
    (hr : u.VMPoolRemoved c) : ¬ OwesVMPool w k := by
  obtain ⟨ref, href, hmem⟩ := hr
  obtain ⟨-, hne, hw⟩ := h.removed ref hmem
  rcases h.read c hc ref href with rfl | rfl
  · exact absurd rfl hne
  · exact hw

/-- The stored cluster changes in its status or its spec only. -/
theorem setCluster (h : Tracked k w u) (hs : w.clusters.lookup k = some c₀)
    (href : UnsetRef k c'.spec) (hfin : (∃ c, u.Normal c) → clusterFinalizer ∈ c₀.finalizers →
      clusterFinalizer ∈ c'.finalizers)
    (hsync : u'.sent = false → u.sent = false ∧
      record c'.status.conditions = record c₀.status.conditions)
    (howed : OwesVMPool w k → k.vmPoolName = k.lbPoolName ∨
      vmPoolOwned c'.status.conditions = true ∨ k.vmPoolName ∈ u.created ∧ u'.sent = false)
    (hu : u'.cluster = u.cluster) (hcreated : u'.created = u.created)
    (hremoved : u'.removed = u.removed) : Tracked k (w.setCluster k c') u' := by
  have hlookup : ∀ {c₁}, (w.setCluster k c').clusters.lookup k = some c₁ → c₁ = c' := by
    intro c₁ hs₁
    rw [lookup_setCluster, if_pos rfl] at hs₁
    exact (Option.some.inj hs₁).symm
  refine ⟨?_, fun c hr => h.read c (hu ▸ hr), ?_, ?_, ?_, ?_, ?_, ?_⟩
  · intro c₁ hs₁
    rw [hlookup hs₁]
    exact href
  · intro c hn
    obtain ⟨c₁, hs₁, hf₁⟩ := h.normal c (hn.of_cluster hu.symm)
    obtain rfl := Option.some.inj (hs.symm.trans hs₁)
    exact ⟨c', by rw [lookup_setCluster, if_pos rfl]; rfl,
      hfin ⟨c, hn.of_cluster hu.symm⟩ hf₁⟩
  · intro c c₁ hr hsent hs₁ hw
    rw [hlookup hs₁, (hsync hsent).2]
    exact h.sync c c₀ (hu ▸ hr) (hsync hsent).1 hs (hw.imp_right fun hn => hn.of_cluster hu.symm)
  · intro hw
    refine (howed hw).imp_right fun hw => hw.imp (fun ho c₁ hs₁ => ?_) fun hn => hcreated ▸ hn
    rw [hlookup hs₁]
    exact ho
  · exact fun c hd hw => h.deleting c (hd.of_cluster hu.symm) hw
  · intro n hn
    obtain ⟨c, hc⟩ := h.created n (hcreated ▸ hn)
    exact ⟨c, hc.of_cluster hu⟩
  · intro n hn
    obtain ⟨⟨c, hc⟩, hrest⟩ := h.removed n (hremoved ▸ hn)
    exact ⟨⟨c, hc.of_cluster hu⟩, hrest⟩

/-- The cluster is gone; no pass of it is past the finalizer checks. -/
theorem eraseCluster (h : Tracked k w u) (hn : ∀ c, ¬ u.Normal c)
    (hu : u'.cluster = u.cluster) (hcreated : u'.created = u.created)
    (hremoved : u'.removed = u.removed) :
    Tracked k { w with clusters := w.clusters.erase k } u' := by
  have hnone : ∀ {c}, (w.clusters.erase k).lookup k = some c → False := by
    intro c hs
    rw [Table.lookup_erase_eq, if_pos rfl] at hs
    cases hs
  refine ⟨fun c hs => (hnone hs).elim, fun c hr => h.read c (hu ▸ hr),
    fun c hc => absurd (hc.of_cluster hu.symm) (hn c), fun c c₀ _ _ hs _ => (hnone hs).elim,
    fun _ => Or.inr (Or.inl fun c hs => (hnone hs).elim),
    fun c hd hw => h.deleting c (hd.of_cluster hu.symm) hw, fun n hc => ?_, fun n hr => ?_⟩
  · obtain ⟨c, hc⟩ := h.created n (hcreated ▸ hc)
    exact absurd hc (hn c)
  · obtain ⟨⟨c, hc⟩, hrest⟩ := h.removed n (hremoved ▸ hr)
    exact ⟨⟨c, hc.of_cluster hu⟩, hrest⟩

/-- A patch of the conditions keeps the record of a pool that is to be deleted. -/
theorem patchConditions (h : Tracked k w u) {b a cs : Conditions} (hc : u.cluster = some c)
    (hunsent : u.sent = false) (hb : b = c.status.conditions) (hstep : u.ConditionsStep k c a)
    (hs : w.clusters.lookup k = some c₀)
    (hm : Conditions.merge b a c₀.status.conditions = some cs) :
    Tracked k (w.setCluster k { c₀ with status := { c₀.status with conditions := cs } })
      { u with sent := true, patching := true } := by
  refine h.setCluster hs (h.stored c₀ hs) (fun _ hf => hf) nofun (fun hw => ?_) rfl rfl rfl
  have hsync := h.sync c c₀ hc hunsent hs (Or.inl hw)
  have howned : vmPoolOwned cs = vmPoolOwned a :=
    vmPoolOwned_of_record (record_merge hm (hb ▸ hsync))
  rw [howned]
  rcases h.owed hw with hname | hstored | ⟨hcreated, -⟩
  · exact Or.inl hname
  · have hread : vmPoolOwned c.status.conditions = true :=
      (vmPoolOwned_of_record hsync).symm.trans (hstored c₀ hs)
    rcases hstep.kept hread with ha | ⟨-, hremoved⟩
    · exact Or.inr (Or.inl ha)
    · exact absurd hw (h.not_owed_of_removed hc hremoved)
  · exact (hstep.recorded hcreated).imp_right Or.inl

/-- A patch sets the reference to the generated name or leaves it as it is stored. -/
theorem unsetRef_apply (hc : UnsetRef k c₀.spec)
    (href : vmPoolRef c' = vmPoolRef c ∨ vmPoolRef c' = some k.vmPoolName) :
    UnsetRef k ((ObjectPatch.between c c').apply c₀).spec := by
  intro ref hmem
  cases hp : (ObjectPatch.between c c').vmPoolRef with
  | none =>
    simp only [ObjectPatch.apply, hp] at hmem
    exact hc ref hmem
  | some name =>
    have hname : vmPoolRef c' = some name ∧ vmPoolRef c ≠ some name := by
      unfold ObjectPatch.between at hp
      dsimp only at hp
      split at hp
      · rename_i b a hb ha
        obtain ⟨hne, rfl⟩ := changedTo_eq_some hp
        rw [vmPoolRef, vmPoolRef, ha, hb]
        exact ⟨rfl, fun heq => hne (Option.some.inj heq)⟩
      · cases hp
    simp only [ObjectPatch.apply, hp] at hmem
    obtain ⟨cfg, hcfg, rfl⟩ := Option.map_eq_some_iff.mp hmem
    obtain ⟨cfg₀, -, rfl⟩ := Option.map_eq_some_iff.mp hcfg
    rcases href with href | href
    · exact absurd (href.symm.trans hname.1) hname.2
    · exact Or.inr (Option.some.inj (hname.1.symm.trans href))

theorem patchObject (h : Tracked k w u) {p : ObjectPatch} (hp : p = .between c c')
    (hstep : u.FinalizerStep k c c'.finalizers)
    (href : vmPoolRef c' = vmPoolRef c ∨ vmPoolRef c' = some k.vmPoolName)
    (hs : w.clusters.lookup k = some c₀) :
    Tracked k (w.setCluster k (p.apply c₀)) { u with patching := true } := by
  subst hp
  refine h.setCluster hs (unsetRef_apply (h.stored c₀ hs) href) ?_ (fun hu => ⟨hu, rfl⟩) ?_
    rfl rfl rfl
  · rintro ⟨c₁, hn⟩ hf
    rcases hstep.kept_or_drop hf with hkept | ⟨hd, -⟩
    · exact hkept
    · exact (hn.not_deleting hd).elim
  · exact fun hw => (h.owed hw).imp_right fun hw => hw.imp_left fun ho => ho c₀ hs

theorem patchObjectLast (h : Tracked k w u) {p : ObjectPatch} (hp : p = .between c c')
    (hstep : u.FinalizerStep k c c'.finalizers) (hs : w.clusters.lookup k = some c₀)
    (hlast : (p.apply c₀).finalizers = []) :
    Tracked k { w with clusters := w.clusters.erase k } { u with patching := true } := by
  subst hp
  refine h.eraseCluster (fun c₁ hn => ?_) rfl rfl rfl
  obtain ⟨c₂, hs₂, hf⟩ := h.normal c₁ hn
  obtain rfl := Option.some.inj (hs.symm.trans hs₂)
  rcases hstep.kept_or_drop hf with hkept | ⟨hd, -⟩
  · rw [hlast] at hkept
    cases hkept
  · exact hn.not_deleting hd

/-- A patch of the conditions that failed has lost nothing when no pool was created. -/
theorem patchFailed (h : Tracked k w u) (hn : k.vmPoolName ∉ u.created) :
    Tracked k w { u with sent := true, patching := true } where
  stored := h.stored
  read := h.read
  normal c hc := h.normal c (hc.of_cluster rfl)
  sync _ _ _ hs := nomatch hs
  owed hw := (h.owed hw).imp_right fun hw => Or.inl (hw.resolve_right fun hc => hn hc.1)
  deleting c hd hw := h.deleting c (hd.of_cluster rfl) hw
  created n hc := by
    obtain ⟨c, hc⟩ := h.created n hc
    exact ⟨c, hc.of_cluster rfl⟩
  removed n hr := by
    obtain ⟨⟨c, hc⟩, hrest⟩ := h.removed n hr
    exact ⟨⟨c, hc.of_cluster rfl⟩, hrest⟩

theorem effect (h : Tracked k w u) {r : Req} {x : Resp r} (he : Effect k w u r x w' u')
    (hok : k.vmPoolName ∈ u.created → conditionsFailed r x = false) : Tracked k w' u' := by
  cases he with
  | elsewhere hc _ ho => exact h.frame (by rw [hc]) (fun n => by rw [ho]) rfl rfl rfl rfl
  | read hs hfirst => exact h.read_cluster hs hfirst
  | @createPool n spec x c hphase hunsent _ _ =>
    cases x with
    | error e => exact h.frame rfl (fun _ => Iff.rfl) rfl rfl rfl rfl
    | ok p => exact h.createPool hphase hunsent rfl rfl
  | updatePool _ _ _ => exact h.frame rfl (fun _ => Iff.rfl) rfl rfl rfl rfl
  | @deletePool n x c hphase _ hn =>
    unfold World.note View.next
    dsimp only
    split_ifs
    · exact h.deletePool hphase hn rfl rfl
    · exact h.frame rfl (fun _ => Iff.rfl) rfl rfl rfl rfl
  | @deleteLoadBalancer n x c lb _ _ _ =>
    unfold View.next
    dsimp only
    split_ifs
    · exact h.frame rfl (fun _ => Iff.rfl) rfl rfl rfl rfl
    · exact h.frame rfl (fun _ => Iff.rfl) rfl rfl rfl rfl
  | loadBalancerGone _ _ _ => exact h.frame rfl (fun _ => Iff.rfl) rfl rfl rfl rfl
  | patchConditions hc hunsent hb hstep hs hm => exact h.patchConditions hc hunsent hb hstep hs hm
  | patchObject _ hp hstep href hs _ => exact h.patchObject hp hstep href hs
  | patchObjectLast _ hp hstep hs hlast => exact h.patchObjectLast hp hstep hs hlast
  | @patchStatus p x c c₀ _ hs =>
    refine h.setCluster hs (h.stored c₀ hs) (fun _ hf => hf) (fun hu => ⟨hu, rfl⟩) ?_ rfl rfl rfl
    exact fun hw => (h.owed hw).imp_right fun hw => hw.imp_left fun ho => ho c₀ hs
  | @pause o recorded x p c₀ hs =>
    have hrecord : record (c₀.markPaused p).status.conditions = record c₀.status.conditions :=
      c₀.lookup_markPaused p (by decide)
    refine h.setCluster hs (h.stored c₀ hs) (fun _ hf => hf) (fun hu => ⟨hu, hrecord⟩) ?_ rfl rfl
      rfl
    exact fun hw => (h.owed hw).imp_right fun hw => hw.imp_left fun ho =>
      (vmPoolOwned_of_record hrecord).trans (ho c₀ hs)
  | conditionsFailed => exact h.patchFailed fun hn => nomatch hok hn
  | objectFailed => exact h.frame rfl (fun _ => Iff.rfl) rfl rfl rfl rfl
  | statusFailed => exact h.frame rfl (fun _ => Iff.rfl) rfl rfl rfl rfl

end Tracked

section Cleanup

variable {ext : Externals} {k j : ObjectKey} {w w' : World} {u u' : View}

/-- What a cluster has to delete is changed by its own requests only. -/
theorem Effect.owed_ne {r : Req} {x : Resp r} (he : Effect j w u r x w' u') (hk : k ≠ j)
    (n : String) : (k, n) ∈ w'.owed ↔ (k, n) ∈ w.owed := by
  have hne : ∀ m, (k, n) ≠ (j, m) := fun m heq => hk (Prod.mk.inj heq).1
  cases he with
  | elsewhere _ _ ho => rw [ho]
  | @createPool m spec x c _ _ _ _ =>
    cases x with
    | error e => exact Iff.rfl
    | ok p => exact List.mem_cons.trans (or_iff_right (hne m))
  | @deletePool m x c _ _ _ =>
    unfold World.note
    dsimp only
    split_ifs
    · exact List.mem_filter.trans (and_iff_left (decide_eq_true (hne m)))
    · exact Iff.rfl
  | _ => exact Iff.rfl

/-- The pass that creates the pool of the VMs has the patch of its conditions accepted, users set
no reference to another pool, and the machine controller leaves the record alone. -/
def RecordKept (k : ObjectKey) (w : World) (v : ObjectKey → View) : ClusterEvent → Prop
  | .issue j r f => j = k → k.vmPoolName ∈ (v k).created →
      conditionsFailed r (exec k r f w).1 = false
  | .env (.createCluster j _ spec) => j = k → UnsetRef k spec
  | .env (.editCluster j spec) => j = k → UnsetRef k spec
  | .env (.patchClusterStatus j cs) => j = k →
      ∀ c ∈ w.clusters.lookup k, record cs = record c.status.conditions
  | _ => True

instance (k : ObjectKey) (w : World) (v : ObjectKey → View) :
    DecidablePred (RecordKept k w v) := fun e => by
  unfold RecordKept
  casesm* ClusterEvent, Env <;> infer_instance

theorem Tracked.envEffect {e : Env} (h : Tracked k w u) (he : EnvEffect w e w')
    {v : ObjectKey → View} (hok : RecordKept k w v (.env e)) : Tracked k w' u := by
  -- A move that changes another cluster.
  have hother : ∀ {j c}, k ≠ j → Tracked k (w.setCluster j c) u := fun hk =>
    h.frame (by rw [lookup_setCluster, if_neg hk]) (fun _ => Iff.rfl) rfl rfl rfl rfl
  have howed : ∀ {c c₀ : HarvesterCluster}, w.clusters.lookup k = some c₀ →
      record c.status.conditions = record c₀.status.conditions → OwesVMPool w k →
      k.vmPoolName = k.lbPoolName ∨ vmPoolOwned c.status.conditions = true ∨
        k.vmPoolName ∈ u.created ∧ u.sent = false := fun hs hr hw =>
    (h.owed hw).imp_right fun hw => hw.imp_left fun ho =>
      (vmPoolOwned_of_record hr).trans (ho _ hs)
  cases he with
  | elsewhere hc _ ho => exact h.frame (by rw [hc]) (fun n => by rw [ho]) rfl rfl rfl rfl
  | @createCluster j fs spec habsent _ =>
    by_cases hj : j = k
    · subst hj
      have hnormal : ∀ c, ¬ u.Normal c := fun c hn => by
        obtain ⟨c₁, hs₁, -⟩ := h.normal c hn
        exact nomatch habsent.symm.trans hs₁
      have hnot : ∀ n, (j, n) ∉ w.owed.filter fun e => e.1 ≠ j := fun n hn =>
        of_decide_eq_true (List.mem_filter.mp hn).2 rfl
      refine ⟨fun c hs => ?_, h.read, fun c hn => absurd hn (hnormal c), ?_,
        fun hw => absurd hw (hnot _), fun _ _ hw => absurd hw (hnot _), h.created, fun n hn => ?_⟩
      · rw [Table.lookup_insert_eq, if_pos rfl] at hs
        obtain rfl := Option.some.inj hs
        exact hok rfl
      · rintro c c₀ - - - (hw | hn)
        · exact absurd hw (hnot _)
        · exact absurd hn (hnormal c)
      · exact ⟨(h.removed n hn).1, (h.removed n hn).2.1, hnot n⟩
    · refine h.frame (by rw [Table.lookup_insert_eq, if_neg (Ne.symm hj)]) (fun n => ?_)
        rfl rfl rfl rfl
      exact List.mem_filter.trans (and_iff_left (decide_eq_true (Ne.symm hj)))
  | @editCluster j spec c hs _ =>
    by_cases hj : j = k
    · subst hj
      exact h.setCluster hs (hok rfl) (fun _ hf => hf) (fun hu => ⟨hu, rfl⟩) (howed hs rfl)
        rfl rfl rfl
    · exact hother (Ne.symm hj)
  | @eraseCluster j c hs hfree =>
    by_cases hj : j = k
    · subst hj
      refine h.eraseCluster (fun c₁ hn => ?_) rfl rfl rfl
      obtain ⟨c₂, hs₂, hf⟩ := h.normal c₁ hn
      obtain rfl := Option.some.inj (hs.symm.trans hs₂)
      rw [hfree] at hf
      cases hf
    · exact h.frame (by rw [Table.lookup_erase_eq, if_neg (Ne.symm hj)]) (fun _ => Iff.rfl)
        rfl rfl rfl rfl
  | @markCluster j c hs =>
    by_cases hj : j = k
    · subst hj
      exact h.setCluster hs (h.stored c hs) (fun _ hf => hf) (fun hu => ⟨hu, rfl⟩) (howed hs rfl)
        rfl rfl rfl
    · exact hother (Ne.symm hj)
  | @patchClusterStatus j cs c hs =>
    by_cases hj : j = k
    · subst hj
      exact h.setCluster hs (h.stored c hs) (fun _ hf => hf) (fun hu => ⟨hu, hok rfl c hs⟩)
        (howed hs (hok rfl c hs)) rfl rfl rfl
    · exact hother (Ne.symm hj)
  | _ => exact h.frame rfl (fun _ => Iff.rfl) rfl rfl rfl rfl

theorem tracked_preserves (ext : Externals) (k : ObjectKey) :
    (system ext).Preserves contract (RecordKept k) fun w v => Tracked k w (v k) := by
  refine preserves_of_effects ?_ ?_ ?_
  · intro w v j hd h
    refine update_rule (Q := fun (u : View) => Tracked k w u) ?_ fun _ => h
    rintro rfl
    exact h.fresh hd
  · intro w w' v v' j r a he hok h
    refine update_rule (Q := fun (u : View) => Tracked k w' u) ?_ fun hk => ?_
    · rintro rfl
      exact h.effect he (hok rfl)
    · exact h.frame (he.clusters_ne hk) (he.owed_ne hk) rfl rfl rfl rfl
  · intro w w' v e he hok h
    exact h.envEffect he hok

/-- In every run in which the record of a created pool is neither lost nor overwritten and users
set no reference, a step that takes the finalizer of cluster `k` away leaves no pool behind that
`k` has created for its VMs: each was deleted or found gone. -/
theorem vm_pool_cleaned_up (ext : Externals) (k : ObjectKey) (s : ClusterState) (hs : Starts s)
    (hrefs : ∀ c, s.world.clusters.lookup k = some c → UnsetRef k c.spec)
    (howed : ¬ OwesVMPool s.world k) (acts : List ClusterAction)
    (hok : (system ext).Admissible (RecordKept k) s acts) (ans : ∀ r, Answer r)
    (hf : Protected ((system ext).run s acts).world k)
    (hdrop : ¬ Protected ((system ext).step ((system ext).run s acts) (.exec k ans)).world k) :
    ¬ OwesVMPool ((system ext).run s acts).world k := by
  have hstart : Tracked k s.world (s.view k) := by
    rw [hs.unseen k]
    exact .start hrefs howed
  obtain ⟨h, hconf⟩ := (tracked_preserves ext k).run (keeps_contract ext) hs.conforms hstart hok
  rcases step_effect hconf k ans with hsame | ⟨r, x, v', he⟩
  · rw [hsame] at hdrop
    exact absurd hf hdrop
  · obtain ⟨c, hphase, -, hgen, hvm⟩ := he.unprotected hf hdrop
    intro hw
    rcases h.deleting c hphase hw with hname | howned
    · have hnot := (h.removed _ hgen).2.2
      rw [← hname] at hnot
      exact hnot hw
    · exact h.not_owed_of_removed hphase.cluster (hvm howned) hw

end Cleanup

namespace Sample

/-- Cluster `x` creates its pool, is deleted, deletes the pool and is about to patch itself. -/
def createAndLeave : List ClusterAction :=
  created keyX [clusterFinalizer] vmPoolSpec ++ pass keyX ++
    .env (.deleteCluster keyX) :: calls 10 noFault keyX

def conditionsRejected : Req → Fault
  | .patchConditions _ _ => .reject "timeout"
  | _ => .none

/-- The same with the record lost in the pass that creates the pool; the next pass finds the pool
and has nothing to record. -/
def createAndForget : List ClusterAction :=
  created keyX [clusterFinalizer] vmPoolSpec ++ passWith conditionsRejected keyX ++ pass keyX ++
    .env (.deleteCluster keyX) :: calls 8 noFault keyX

end Sample

open Sample in
theorem vm_pool_cleaned_up_sample :
    Protected ((system ext).run empty createAndLeave).world keyX ∧
      ¬ OwesVMPool ((system ext).run empty createAndLeave).world keyX := by
  have hf : Protected ((system ext).run empty createAndLeave).world keyX := by decide +kernel
  exact ⟨hf, vm_pool_cleaned_up ext keyX empty starts_empty (fun _ h => nomatch h) (by decide)
    createAndLeave (by decide +kernel) (answers noFault) hf (by decide +kernel)⟩

open Sample in
/-- The pool stays in Harvester when the cluster is gone. -/
theorem vm_pool_left_behind :
    let t := (system ext).run empty createAndForget
    let t' := (system ext).step t (.exec keyX (answers noFault))
    Protected t.world keyX ∧ t'.world.clusters.lookup keyX = none ∧ OwesVMPool t.world keyX ∧
      (t'.world.pools.lookup "ns-x-vm-ippool").map StoredPool.creator = some (some keyX) := by
  decide +kernel

end Caphv.Cluster
