import Caphv.ClusterConformance

namespace Caphv.Cluster

section Effects

variable (k : ObjectKey) (w : World) (v : View)

/-- Everything that a request of cluster `k` can do to the clusters and the pools that the guard
allows: the request, its response, the world and the view after it. -/
inductive Effect : (r : Req) → Resp r → World → View → Prop where
  /-- A read that is not recorded, a write to other objects, or one that failed. -/
  | elsewhere {r : Req} {x : Resp r} {w' : World} (clusters : w'.clusters = w.clusters)
      (pools : w'.pools = w.pools) (owed : w'.owed = w.owed) : Effect r x w' v
  | read {c : HarvesterCluster} (stored : w.clusters.lookup k = some c)
      (first : v.cluster = none) : Effect .getCluster (.ok c) w { v with cluster := some c }
  | createPool {n : String} {spec : PoolSpec} {x : Resp (.createPool n spec)}
      {c : HarvesterCluster} (phase : v.Normal c) (unsent : v.sent = false)
      (name : n = k.lbPoolName ∨ n = k.vmPoolName) (absent : w.pools.lookup n = none) :
      Effect (.createPool n spec) x
        ((w.setPool n ⟨spec.new, some k⟩).note k (.createPool n spec) x)
        (v.next (.createPool n spec) x)
  | updatePool {n : String} {p : IPPool} {x : Except ApiError Unit} {c : HarvesterCluster}
      {old : StoredPool} (phase : v.Normal c) (stored : w.pools.lookup n = some old)
      (version : old.pool.resourceVersion = p.resourceVersion) :
      Effect (.updatePool n p) x (w.setPool n
        { old with pool := p.stored }) v
  /-- The pool was deleted, or was not there. -/
  | deletePool {n : String} {x : Resp (.deletePool n)} {c : HarvesterCluster}
      (phase : v.Deleting c) (may : MayDelete k c n) (named : n ≠ "") :
      Effect (.deletePool n) x
        (({ w with pools := w.pools.erase n } : World).note k (.deletePool n) x)
        (v.next (.deletePool n) x)
  | deleteLoadBalancer {n : NamespacedName} {x : Resp (.deleteLoadBalancer n)}
      {c : HarvesterCluster} {lb : LoadBalancer} (phase : v.Deleting c)
      (name : n = ⟨c.spec.targetNamespace, k.lbName⟩)
      (stored : w.loadBalancers.lookup n = some lb) :
      Effect (.deleteLoadBalancer n) x
        { w with
          loadBalancers := w.loadBalancers.erase n
          pools := w.pools.mapValues (StoredPool.releaseByID (n.ns ++ "/" ++ n.name)) }
        (v.next (.deleteLoadBalancer n) x)
  | loadBalancerGone {n : NamespacedName} {c : HarvesterCluster} (phase : v.Deleting c)
      (name : n = ⟨c.spec.targetNamespace, k.lbName⟩) (absent : w.loadBalancers.lookup n = none) :
      Effect (.deleteLoadBalancer n) (.error .notFound) w { v with lbRemoved := true }
  | patchConditions {b a cs : Conditions} {x : Except ApiError Unit} {c c₀ : HarvesterCluster}
      (cluster : v.cluster = some c) (unsent : v.sent = false)
      (before : b = c.status.conditions) (step : v.ConditionsStep k c a)
      (stored : w.clusters.lookup k = some c₀)
      (merged : Conditions.merge b a c₀.status.conditions = some cs) :
      Effect (.patchConditions b a) x
        (w.setCluster k { c₀ with status := { c₀.status with conditions := cs } })
        { v with sent := true, patching := true }
  | patchObject {p : ObjectPatch} {x : Except ApiError Unit} {c c' c₀ : HarvesterCluster}
      (cluster : v.cluster = some c) (change : p = .between c c')
      (finalizers : v.FinalizerStep k c c'.finalizers)
      (ref : vmPoolRef c' = vmPoolRef c ∨ vmPoolRef c' = some k.vmPoolName)
      (stored : w.clusters.lookup k = some c₀) (admitted : Admitted (p.apply c₀).spec) :
      Effect (.patchObject p) x (w.setCluster k (p.apply c₀)) { v with patching := true }
  | patchObjectLast {p : ObjectPatch} {x : Except ApiError Unit} {c c' c₀ : HarvesterCluster}
      (cluster : v.cluster = some c) (change : p = .between c c')
      (finalizers : v.FinalizerStep k c c'.finalizers)
      (stored : w.clusters.lookup k = some c₀) (last : (p.apply c₀).finalizers = []) :
      Effect (.patchObject p) x { w with clusters := w.clusters.erase k }
        { v with patching := true }
  | patchStatus {p : StatusPatch} {x : Except ApiError Unit} {c c₀ : HarvesterCluster}
      (cluster : v.cluster = some c) (stored : w.clusters.lookup k = some c₀) :
      Effect (.patchStatus p) x (w.setCluster k { c₀ with status := p.apply c₀.status })
        { v with patching := true }
  | pause {o : Owner} {recorded : Option Condition} {x : PausedResult} {p : Condition}
      {c₀ : HarvesterCluster} (stored : w.clusters.lookup k = some c₀) :
      Effect (.ensurePausedCondition o recorded) x (w.setCluster k (c₀.markPaused p)) v
  | conditionsFailed {b a : Conditions} {e : ApiError} :
      Effect (.patchConditions b a) (.error e) w { v with sent := true, patching := true }
  | objectFailed {p : ObjectPatch} {e : ApiError} :
      Effect (.patchObject p) (.error e) w { v with patching := true }
  | statusFailed {p : StatusPatch} {e : ApiError} :
      Effect (.patchStatus p) (.error e) w { v with patching := true }

end Effects

section Exec

variable {k : ObjectKey} {w : World} {v : View}

/-- A write that touches neither clusters nor pools under any fault. -/
theorem write_elsewhere {α : Type} (f : Fault) (out : Except ApiError (α × World))
    (h : ∀ a w', out = .ok (a, w') →
      w'.clusters = w.clusters ∧ w'.pools = w.pools ∧ w'.owed = w.owed) :
    (f.write w out).2.clusters = w.clusters ∧ (f.write w out).2.pools = w.pools ∧
      (f.write w out).2.owed = w.owed :=
  Fault.write_rule (E := fun _ w' =>
      w'.clusters = w.clusters ∧ w'.pools = w.pools ∧ w'.owed = w.owed)
    (fun _ a w' hout _ => h a w' hout) fun _ _ => ⟨rfl, rfl, rfl⟩

/-- An update under the resource version either stores the new value or changes nothing. -/
theorem updateVersioned_rule {κ α : Type} [DecidableEq κ] {f : Fault}
    {table : Table κ (Versioned α)} {key : κ} {new : Versioned α}
    {put : Table κ (Versioned α) → World} {E : Except ApiError Unit → World → Prop}
    (hput : ∀ x, E x (put (table.insert key ⟨new.resourceVersion + 1, new.val⟩)))
    (herr : ∀ e, E (.error e) w) :
    E (f.write w ((updateVersioned table key new).map fun t => ((), put t))).1
      (f.write w ((updateVersioned table key new).map fun t => ((), put t))).2 := by
  refine Fault.write_rule (fun x b w' hout _ => ?_) fun e _ => herr e
  unfold updateVersioned at hout
  split at hout
  · cases hout
  · split_ifs at hout
    · cases hout
      exact hput x
    · cases hout

theorem effect_createPool (n : String) (spec : PoolSpec) (f : Fault)
    (hg : Guard k v (.createPool n spec)) :
    Effect k w v (.createPool n spec) (f.write w (w.createPool k n spec)).1
      ((f.write w (w.createPool k n spec)).2.note k (.createPool n spec)
        (f.write w (w.createPool k n spec)).1)
      (v.next (.createPool n spec) (f.write w (w.createPool k n spec)).1) := by
  obtain ⟨c, hphase, hunsent, hname⟩ := hg
  refine Fault.write_rule (E := fun x (w' : World) => Effect k w v (.createPool n spec) x
    (w'.note k (.createPool n spec) x) (v.next (.createPool n spec) x)) ?_ ?_
  · intro x a w' hout _
    unfold World.createPool at hout
    split_ifs at hout with _ hfree
    cases hout
    exact .createPool hphase hunsent hname (by simpa using hfree)
  · exact fun e _ => .elsewhere rfl rfl rfl

theorem effect_updatePool (n : String) (p : IPPool) (f : Fault)
    (hg : Guard k v (.updatePool n p)) :
    Effect k w v (.updatePool n p) (f.write w (w.updatePool n p)).1
      (f.write w (w.updatePool n p)).2 v := by
  obtain ⟨c, hphase⟩ := hg
  refine Fault.write_rule (E := fun x w' => Effect k w v (.updatePool n p) x w' v) ?_ ?_
  · intro x a w' hout _
    unfold World.updatePool at hout
    split at hout
    · cases hout
    · split_ifs at hout with hversion
      cases hout
      exact .updatePool hphase ‹_› hversion
  · exact fun e _ => .elsewhere rfl rfl rfl

/-- A pool that the server does not have is deleted already. -/
theorem effect_deletePool (n : String) (f : Fault) (hg : Guard k v (.deletePool n)) :
    Effect k w v (.deletePool n) (f.write w (w.deletePool n)).1
      ((f.write w (w.deletePool n)).2.note k (.deletePool n) (f.write w (w.deletePool n)).1)
      (v.next (.deletePool n) (f.write w (w.deletePool n)).1) := by
  obtain ⟨c, hphase, hmay⟩ := hg
  refine Fault.write_rule (E := fun x (w' : World) => Effect k w v (.deletePool n) x
    (w'.note k (.deletePool n) x) (v.next (.deletePool n) x)) ?_ ?_
  · intro x a w' hout _
    unfold World.deletePool at hout
    split_ifs at hout with hnamed
    split at hout
    · cases hout
    · cases hout
      exact .deletePool hphase hmay hnamed
  · intro e hnf
    cases he : e.isNotFound with
    | true =>
      have hout := hnf he
      unfold World.deletePool at hout
      split_ifs at hout with hnamed
      · cases hout
      split at hout
      · rename_i habsent
        have hdel : Effect k w v (.deletePool n) (.error e)
            (({ w with pools := w.pools.erase n } : World).note k (.deletePool n) (.error e))
            (v.next (.deletePool n) (.error e)) := .deletePool hphase hmay hnamed
        rwa [Table.erase_of_lookup_none habsent] at hdel
      · cases hout
    | false =>
      have hnote : w.note k (.deletePool n) (.error e) = w := by
        simp [World.note, gone, he]
      have hview : v.next (.deletePool n) (.error e) = v := by
        simp [View.next, gone, he]
      rw [hnote, hview]
      exact .elsewhere rfl rfl rfl

theorem effect_deleteLoadBalancer (n : NamespacedName) (f : Fault)
    (hg : Guard k v (.deleteLoadBalancer n)) :
    Effect k w v (.deleteLoadBalancer n) (f.write w (w.deleteLoadBalancer n)).1
      (f.write w (w.deleteLoadBalancer n)).2
      (v.next (.deleteLoadBalancer n) (f.write w (w.deleteLoadBalancer n)).1) := by
  obtain ⟨c, hphase, hname⟩ := hg
  refine Fault.write_rule (E := fun x w' => Effect k w v (.deleteLoadBalancer n) x w'
    (v.next (.deleteLoadBalancer n) x)) ?_ ?_
  · intro x a w' hout _
    unfold World.deleteLoadBalancer at hout
    split at hout
    · cases hout
    · cases hout
      exact .deleteLoadBalancer hphase hname ‹_›
  · intro e hnf
    cases e with
    | notFound =>
      have hout := hnf rfl
      unfold World.deleteLoadBalancer at hout
      split at hout
      · exact .loadBalancerGone hphase hname ‹_›
      · cases hout
    | alreadyExists => exact .elsewhere rfl rfl rfl
    | conflict => exact .elsewhere rfl rfl rfl
    | other msg => exact .elsewhere rfl rfl rfl

theorem effect_patchConditions (b a : Conditions) (f : Fault)
    (hg : Guard k v (.patchConditions b a)) :
    Effect k w v (.patchConditions b a) (f.write w (w.patchConditions k b a)).1
      (f.write w (w.patchConditions k b a)).2 { v with sent := true, patching := true } := by
  obtain ⟨c, hc, hunsent, hbefore, hstep⟩ := hg
  refine Fault.write_rule (E := fun x w' => Effect k w v (.patchConditions b a) x w'
    { v with sent := true, patching := true }) ?_ fun e _ => .conditionsFailed
  intro x _ w' hout _
  unfold World.patchConditions at hout
  split at hout
  · cases hout
  · split at hout
    · cases hout
    · cases hout
      exact .patchConditions hc hunsent hbefore hstep ‹_› ‹_›

theorem effect_patchObject (p : ObjectPatch) (f : Fault) (hg : Guard k v (.patchObject p)) :
    Effect k w v (.patchObject p) (f.write w (w.patchObject k p)).1
      (f.write w (w.patchObject k p)).2 { v with patching := true } := by
  obtain ⟨c, c', hc, hp, hfin, href⟩ := hg
  refine Fault.write_rule (E := fun x w' => Effect k w v (.patchObject p) x w'
    { v with patching := true }) ?_ fun e _ => .objectFailed
  intro x _ w' hout _
  unfold World.patchObject at hout
  split at hout
  · cases hout
  · dsimp only at hout
    split_ifs at hout with _ hadm _ hlast
    · cases hout
      exact .patchObjectLast hc hp hfin ‹_› hlast.2
    · cases hout
      exact .patchObject hc hp hfin href ‹_› hadm

theorem effect_patchStatus (p : StatusPatch) (f : Fault) (hg : Guard k v (.patchStatus p)) :
    Effect k w v (.patchStatus p) (f.write w (w.patchStatus k p)).1
      (f.write w (w.patchStatus k p)).2 { v with patching := true } := by
  obtain ⟨c, hc⟩ := hg
  refine Fault.write_rule (E := fun x w' => Effect k w v (.patchStatus p) x w'
    { v with patching := true }) ?_ fun e _ => .statusFailed
  intro x _ w' hout _
  unfold World.patchStatus at hout
  split at hout
  · cases hout
  · cases hout
    exact .patchStatus hc ‹_›

theorem patchPaused_eq_ok {p : Condition} {w' : World} (h : w.patchPaused k p = .ok ((), w')) :
    ∃ c, w.clusters.lookup k = some c ∧ w' = w.setCluster k (c.markPaused p) := by
  unfold World.patchPaused at h
  split at h
  · cases h
  · cases h
    exact ⟨_, ‹_›, rfl⟩

/-- The check for the pause leaves the world, or writes the condition of the stored cluster. -/
theorem ensurePaused_rule {recorded : Option Condition} {a : PausedAnswer} {E : World → Prop}
    (hsame : E w) (hmark : ∀ c, w.clusters.lookup k = some c →
      E (w.setCluster k (c.markPaused a.condition))) :
    E (ensurePaused recorded a w (w.patchPaused k)).2 := by
  refine ensurePaused_write_rule hsame fun w' hout => ?_
  obtain ⟨c, hs, rfl⟩ := patchPaused_eq_ok hout
  exact hmark c hs

/-- The inversion of one request: whatever the fault, it has one of the effects. -/
theorem exec_effect (r : Req) (a : Answer r) (hg : Guard k v r) :
    Effect k w v r (exec k r a w).1 (exec k r a w).2 (v.next r (exec k r a w).1) := by
  cases r with
  | getCluster =>
    show Effect k w v .getCluster (Fault.reply a (found (w.clusters.lookup k))) w
      (v.next .getCluster (Fault.reply a (found (w.clusters.lookup k))))
    cases hx : Fault.reply a (found (w.clusters.lookup k)) with
    | error e => exact .elsewhere rfl rfl rfl
    | ok c => exact .read (found_eq_ok (Fault.reply_eq_ok hx)) hg
  | createPool n spec => exact effect_createPool n spec a hg
  | updatePool n p => exact effect_updatePool n p a hg
  | deletePool n => exact effect_deletePool n a hg
  | deleteLoadBalancer n => exact effect_deleteLoadBalancer n a hg
  | patchConditions b c => exact effect_patchConditions b c a hg
  | patchObject p => exact effect_patchObject p a hg
  | patchStatus p => exact effect_patchStatus p a hg
  | ensurePausedCondition o recorded =>
    exact ensurePaused_rule (E := fun w' => Effect k w v (.ensurePausedCondition o recorded) _ w' v)
      (.elsewhere rfl rfl rfl) fun _ hs => .pause hs
  | createService n ip =>
    have h := write_elsewhere (w := w) a (w.createService n ip) fun _ w' hout => by
      unfold World.createService at hout
      split_ifs at hout
      cases hout
      exact ⟨rfl, rfl, rfl⟩
    exact .elsewhere h.1 h.2.1 h.2.2
  | deleteService n =>
    have h := write_elsewhere (w := w) a (w.deleteService n) fun _ w' hout => by
      unfold World.deleteService at hout
      split at hout
      · cases hout
      · cases hout
        exact ⟨rfl, rfl, rfl⟩
    exact .elsewhere h.1 h.2.1 h.2.2
  | createLoadBalancer n spec =>
    have h := write_elsewhere (w := w) a (w.createLoadBalancer n spec) fun _ w' hout => by
      unfold World.createLoadBalancer at hout
      split_ifs at hout
      cases hout
      exact ⟨rfl, rfl, rfl⟩
    exact .elsewhere h.1 h.2.1 h.2.2
  | updateService n svc =>
    exact updateVersioned_rule (E := fun x w' => Effect k w v (.updateService n svc) x w' v)
      (fun _ => .elsewhere rfl rfl rfl) fun _ => .elsewhere rfl rfl rfl
  | updateConfigMap n data =>
    exact updateVersioned_rule (E := fun x w' => Effect k w v (.updateConfigMap n data) x w' v)
      (fun _ => .elsewhere rfl rfl rfl) fun _ => .elsewhere rfl rfl rfl
  | updateFleetCluster n labels =>
    exact updateVersioned_rule (E := fun x w' => Effect k w v (.updateFleetCluster n labels) x w' v)
      (fun _ => .elsewhere rfl rfl rfl) fun _ => .elsewhere rfl rfl rfl
  | _ => exact .elsewhere rfl rfl rfl

end Exec

/-- Everything that can happen to the clusters and the pools between two requests. -/
inductive EnvEffect (w : World) : Env → World → Prop where
  | elsewhere {e : Env} {w' : World} (clusters : w'.clusters = w.clusters)
      (pools : w'.pools = w.pools) (owed : w'.owed = w.owed) : EnvEffect w e w'
  | createCluster {k : ObjectKey} {finalizers : List String} {spec : HarvesterClusterSpec}
      (absent : w.clusters.lookup k = none) (admitted : Admitted spec) :
      EnvEffect w (.createCluster k finalizers spec)
        { w with
          clusters := w.clusters.insert k ⟨finalizers, false, spec, .empty⟩
          owed := w.owed.filter fun e => e.1 ≠ k }
  | editCluster {k : ObjectKey} {spec : HarvesterClusterSpec} {c : HarvesterCluster}
      (stored : w.clusters.lookup k = some c) (admitted : Admitted spec) :
      EnvEffect w (.editCluster k spec) (w.setCluster k { c with spec := spec })
  | eraseCluster {k : ObjectKey} {c : HarvesterCluster} (stored : w.clusters.lookup k = some c)
      (free : c.finalizers = []) :
      EnvEffect w (.deleteCluster k) { w with clusters := w.clusters.erase k }
  | markCluster {k : ObjectKey} {c : HarvesterCluster} (stored : w.clusters.lookup k = some c) :
      EnvEffect w (.deleteCluster k) (w.setCluster k { c with deleting := true })
  | patchClusterStatus {k : ObjectKey} {cs : Conditions} {c : HarvesterCluster}
      (stored : w.clusters.lookup k = some c) :
      EnvEffect w (.patchClusterStatus k cs)
        (w.setCluster k { c with status := { c.status with conditions := cs } })
  | createPool {n : String} {pool : IPPool} (absent : w.pools.lookup n = none) :
      EnvEffect w (.createPool n pool) (w.setPool n ⟨pool, none⟩)
  | putPool {n : String} {pool : IPPool} {old : StoredPool}
      (stored : w.pools.lookup n = some old) :
      EnvEffect w (.putPool n pool) (w.setPool n { old with pool := pool })
  | erasePool {n : String} : EnvEffect w (.erasePool n) { w with pools := w.pools.erase n }

theorem env_effect (w : World) (e : Env) : EnvEffect w e (w.env e) := by
  cases e with
  | createCluster k finalizers spec =>
    simp only [World.env]
    split_ifs with h
    · exact .elsewhere rfl rfl rfl
    · obtain ⟨habsent, hadm⟩ := not_or.mp h
      exact .createCluster (by simpa using habsent) (not_not.mp hadm)
  | editCluster k spec =>
    simp only [World.env]
    split
    · exact .elsewhere rfl rfl rfl
    · split_ifs with hadm
      · exact .editCluster ‹_› hadm
      · exact .elsewhere rfl rfl rfl
  | deleteCluster k =>
    simp only [World.env]
    split
    · exact .elsewhere rfl rfl rfl
    · split_ifs with hfree
      · exact .eraseCluster ‹_› hfree
      · exact .markCluster ‹_›
  | patchClusterStatus k cs =>
    simp only [World.env]
    split
    · exact .elsewhere rfl rfl rfl
    · exact .patchClusterStatus ‹_›
  | createPool n pool =>
    simp only [World.env]
    split_ifs with h
    · exact .elsewhere rfl rfl rfl
    · exact .createPool (by simpa using h)
  | putPool n pool =>
    simp only [World.env]
    split
    · exact .elsewhere rfl rfl rfl
    · exact .putPool ‹_›
  | erasePool n => exact .erasePool
  | setIngress n ingress =>
    simp only [World.env]
    split <;> exact .elsewhere rfl rfl rfl
  | setAddress n address =>
    simp only [World.env]
    split <;> exact .elsewhere rfl rfl rfl
  | _ => exact .elsewhere rfl rfl rfl

section System

variable {ext : Externals}

/-- An invariant is kept by the system when every effect keeps it. -/
theorem preserves_of_effects {ok : World → (ObjectKey → View) → ClusterEvent → Prop}
    {Inv : World → (ObjectKey → View) → Prop}
    (start : ∀ {w v} k, (v k).Done k → Inv w v → Inv w (Function.update v k .fresh))
    (issue : ∀ {w w' v v' k r} (a : Answer r), Effect k w (v k) r (exec k r a w).1 w' v' →
      ok w v (.issue k r a) → Inv w v → Inv w' (Function.update v k v'))
    (env : ∀ {w w' v} e, EnvEffect w e w' → ok w v (.env e) → Inv w v → Inv w' v) :
    (system ext).Preserves contract ok Inv where
  start _ _ k hd h := start k hd h
  issue _ _ _ r a hg hok h := issue a (exec_effect r a hg) hok h
  env w _ e hok h := env e (env_effect w e) hok h

structure Starts (s : ClusterState) : Prop where
  idle : s.Idle
  unseen : ∀ k, s.view k = .fresh

theorem Starts.conforms {s : ClusterState} (h : Starts s) :
    (system ext).Conforms contract s :=
  .of_idle h.idle fun k => by
    rw [h.unseen k]
    exact nofun

/-- A step of cluster `k` is the answer to the request that its pass is about to issue, or
changes nothing. -/
theorem step_effect {t : ClusterState} (h : (system ext).Conforms contract t) (k : ObjectKey)
    (ans : ∀ r, Answer r) :
    ((system ext).step t (.exec k ans)).world = t.world ∨
      ∃ r x v', Effect k t.world (t.view k) r x ((system ext).step t (.exec k ans)).world v' := by
  cases hk : t.pass k with
  | ret u =>
    simp only [Controller.step, hk]
    exact Or.inl trivial
  | call r f =>
    simp only [Controller.step, hk]
    exact Or.inr ⟨r, _, _, exec_effect r (ans r) (h.issue hk)⟩

end System

section Tables

variable {k j : ObjectKey} {w w' : World} {v v' : View}

@[simp] theorem note_pools (w : World) (k : ObjectKey) (r : Req) (x : Resp r) :
    (w.note k r x).pools = w.pools := by
  unfold World.note
  split
  · rfl
  · split_ifs <;> rfl
  · rfl

@[simp] theorem note_clusters (w : World) (k : ObjectKey) (r : Req) (x : Resp r) :
    (w.note k r x).clusters = w.clusters := by
  unfold World.note
  split
  · rfl
  · split_ifs <;> rfl
  · rfl

theorem lookup_setPool (w : World) (n m : String) (p : StoredPool) :
    (w.setPool n p).pools.lookup m = if m = n then some p else w.pools.lookup m :=
  Table.lookup_insert_eq _ _ _ _

theorem lookup_setCluster (w : World) (k j : ObjectKey) (c : HarvesterCluster) :
    (w.setCluster k c).clusters.lookup j = if j = k then some c else w.clusters.lookup j :=
  Table.lookup_insert_eq _ _ _ _

/-- The cluster that a pass has read is the stored one when it reads it. -/
theorem Effect.cluster_view {r : Req} {x : Resp r} (he : Effect k w v r x w' v')
    {c : HarvesterCluster} (h : v'.cluster = some c) :
    v.cluster = some c ∨ r = .getCluster ∧ w.clusters.lookup k = some c := by
  cases he with
  | read hs _ =>
    obtain rfl := Option.some.inj h
    exact Or.inr ⟨rfl, hs⟩
  | @createPool n spec x _ _ _ _ _ => cases x <;> exact Or.inl h
  | @deletePool n x _ _ _ _ =>
    revert h
    unfold View.next
    dsimp only
    split_ifs <;> exact Or.inl
  | @deleteLoadBalancer n x _ _ _ _ _ =>
    revert h
    unfold View.next
    dsimp only
    split_ifs <;> exact Or.inl
  | _ => exact Or.inl h

/-- A request changes the HarvesterCluster of its own pass only. -/
theorem Effect.clusters_ne {r : Req} {x : Resp r} (he : Effect j w v r x w' v') (hk : k ≠ j) :
    w'.clusters.lookup k = w.clusters.lookup k := by
  have hset : ∀ c, (w.setCluster j c).clusters.lookup k = w.clusters.lookup k := fun c => by
    rw [lookup_setCluster, if_neg hk]
  cases he with
  | elsewhere hclusters _ _ => rw [hclusters]
  | createPool _ _ _ _ =>
    rw [note_clusters]
    rfl
  | deletePool _ _ _ => rw [note_clusters]
  | patchConditions _ _ _ _ _ _ => exact hset _
  | patchObject _ _ _ _ _ _ => exact hset _
  | patchObjectLast _ _ _ _ _ => rw [Table.lookup_erase_eq, if_neg hk]
  | patchStatus _ _ => exact hset _
  | pause _ => exact hset _
  | _ => rfl

theorem finalizers_apply (before after c : HarvesterCluster) :
    ((ObjectPatch.between before after).apply c).finalizers =
      if before.finalizers = after.finalizers then c.finalizers else after.finalizers := by
  simp only [ObjectPatch.apply, ObjectPatch.between, changedTo]
  split_ifs <;> rfl

theorem mem_migrateFinalizer (fs : List String) : clusterFinalizer ∈ migrateFinalizer fs :=
  mem_removeFinalizer.mpr ⟨mem_addFinalizer.mpr (Or.inr rfl), by decide⟩

def Protected (w : World) (k : ObjectKey) : Prop :=
  ∃ c ∈ w.clusters.lookup k, clusterFinalizer ∈ c.finalizers

instance (w : World) (k : ObjectKey) : Decidable (Protected w k) :=
  inferInstanceAs (Decidable (∃ c ∈ _, _))

/-- A patch of the object leaves the finalizer in place, unless it is that of a deletion. -/
theorem View.FinalizerStep.kept_or_drop {c c' c₀ : HarvesterCluster}
    (h : v.FinalizerStep k c c'.finalizers) (hf : clusterFinalizer ∈ c₀.finalizers) :
    clusterFinalizer ∈ ((ObjectPatch.between c c').apply c₀).finalizers ∨
      v.Deleting c ∧ v.lbRemoved = true ∧ k.lbPoolName ∈ v.removed ∧
        (vmPoolOwned c.status.conditions = true → v.VMPoolRemoved c) := by
  rw [finalizers_apply]
  generalize c'.finalizers = fs at h
  cases h with
  | keep => exact Or.inl (by rwa [if_pos rfl])
  | migrate _ =>
    left
    split_ifs
    · exact hf
    · exact mem_migrateFinalizer _
  | add _ =>
    left
    split_ifs
    · exact hf
    · exact mem_addFinalizer.mpr (Or.inr rfl)
  | drop deleting lb generated vm => exact Or.inr ⟨deleting, lb, generated, vm⟩

/-- What a pass has done when it takes the finalizer away. -/
theorem Effect.unprotected {r : Req} {x : Resp r} (he : Effect k w v r x w' v')
    (hf : Protected w k) (hdrop : ¬ Protected w' k) :
    ∃ c, v.Deleting c ∧ v.lbRemoved = true ∧ k.lbPoolName ∈ v.removed ∧
      (vmPoolOwned c.status.conditions = true → v.VMPoolRemoved c) := by
  obtain ⟨c₀, hs₀, hc₀⟩ := hf
  have hsame : w'.clusters = w.clusters → False := fun h => hdrop ⟨c₀, h ▸ hs₀, hc₀⟩
  have hset : ∀ c₁, w' = w.setCluster k c₁ → clusterFinalizer ∈ c₁.finalizers → False := by
    rintro c₁ rfl hc₁
    exact hdrop ⟨c₁, by rw [lookup_setCluster, if_pos rfl]; rfl, hc₁⟩
  cases he with
  | elsewhere hclusters _ _ => exact (hsame hclusters).elim
  | createPool _ _ _ _ => exact (hsame (note_clusters _ _ _ _)).elim
  | deletePool _ _ _ => exact (hsame (note_clusters _ _ _ _)).elim
  | @patchConditions b a cs x c c₁ _ _ _ _ hs₁ _ =>
    obtain rfl := Option.some.inj (hs₁.symm.trans hs₀)
    exact (hset _ rfl hc₀).elim
  | @patchStatus p x c c₁ _ hs₁ =>
    obtain rfl := Option.some.inj (hs₁.symm.trans hs₀)
    exact (hset _ rfl hc₀).elim
  | @pause o recorded x p c₁ hs₁ =>
    obtain rfl := Option.some.inj (hs₁.symm.trans hs₀)
    exact (hset _ rfl hc₀).elim
  | @patchObject p x c c' c₁ _ hp hstep _ hs₁ _ =>
    obtain rfl := Option.some.inj (hs₁.symm.trans hs₀)
    rcases hstep.kept_or_drop hc₀ with hkept | hdropped
    · exact (hset _ rfl (hp ▸ hkept)).elim
    · exact ⟨c, hdropped⟩
  | @patchObjectLast p x c c' c₁ _ hp hstep hs₁ hlast =>
    obtain rfl := Option.some.inj (hs₁.symm.trans hs₀)
    rcases hstep.kept_or_drop hc₀ with hkept | hdropped
    · rw [← hp, hlast] at hkept
      cases hkept
    · exact ⟨c, hdropped⟩
  | _ => exact (hsame rfl).elim

end Tables

end Caphv.Cluster
