import Caphv.AddressReturn
import Caphv.ClusterObservers
import Caphv.Optimistic

namespace Caphv

open Net (IP parseIP)

def poolHolder (t : Table String IPPool) (n x : String) : Option String :=
  (t.lookup n).bind fun p => p.status.holder x

theorem poolHolder_of_lookup {t : Table String IPPool} {n : String} {p : IPPool}
    (h : t.lookup n = some p) (x : String) : poolHolder t n x = p.status.holder x := by
  rw [poolHolder, h, Option.bind_some]

theorem poolHolder_of_none {t : Table String IPPool} {n : String} (h : t.lookup n = none)
    (x : String) : poolHolder t n x = none := by
  rw [poolHolder, h, Option.bind_none]

def poolVersions : Versioning IPPool (String → Option String) :=
  ⟨IPPool.resourceVersion, fun p => p.status.holder⟩

/-- An entry changes hands with one of the ids of `P` only: a free address is given to it, or it
gives one back. -/
def Changes (P : String → Prop) (before after : Option String) : Prop :=
  after = before ∨ before = none ∧ (∃ id, P id ∧ after = some id) ∨
    (∃ id, P id ∧ before = some id) ∧ after = none

/-- Free addresses were given to `id`, and no other entry was touched. -/
def Granted (id : String) (st st' : IPPoolStatus) : Prop :=
  ∀ x, st'.holder x = st.holder x ∨
    st.holder x = none ∧ st'.holder x = some id ∧ ∃ ip : IP, x = ip.string

theorem Granted.refl (id : String) (st : IPPoolStatus) : Granted id st st := fun _ => Or.inl rfl

theorem Granted.trans {id : String} {st st' st'' : IPPoolStatus} (h : Granted id st st')
    (h' : Granted id st' st'') : Granted id st st'' := by
  intro x
  rcases h x with hsame | ⟨hfree, hgiven, hip⟩
  · rw [← hsame]
    exact h' x
  · rcases h' x with hsame' | ⟨hfree', -⟩
    · exact Or.inr ⟨hfree, hsame'.trans hgiven, hip⟩
    · rw [hgiven] at hfree'
      cases hfree'

theorem granted_get {a : Allocator} {ranges : List AllocatorRange} {st st' : IPPoolStatus}
    {id : String} {req : Option IP} {ip : IP} (h : a.get ranges st id req = .ok (ip, st')) :
    Granted id st st' := by
  obtain ⟨hfree, rfl⟩ := Allocator.get_eq_ok h
  intro x
  rw [holder_reserve]
  split_ifs with hx
  · obtain ⟨rfl, -⟩ := hx
    exact Or.inr ⟨hfree, rfl, ip, rfl⟩
  · exact Or.inl rfl

namespace Cluster

section Choice

variable {a : Allocator} {id : String}

theorem granted_allocateHistory {ranges : List AllocatorRange} {hist : List (String × String)}
    {ip ip' : Option IP} {st st' : IPPoolStatus}
    (h : allocateHistory a ranges id hist ip st = .ok (ip', st')) : Granted id st st' := by
  induction hist generalizing ip st with
  | nil =>
    cases h
    exact .refl id _
  | cons e rest ih =>
    obtain ⟨k, v⟩ := e
    unfold allocateHistory at h
    split_ifs at h
    · obtain ⟨⟨ip₁, st₁⟩, hget, h⟩ := GoResult.bind_eq_ok.mp h
      exact (granted_get hget).trans (ih h)
    · exact ih h

/-- Every address that a choice reserves was free. -/
theorem granted_chooseIPFromPool {pool pool' : IPPool} {ip : IP}
    (h : chooseIPFromPool a pool id = .ok (ip, pool')) :
    pool'.resourceVersion = pool.resourceVersion ∧ Granted id pool.status pool'.status := by
  unfold chooseIPFromPool at h
  obtain ⟨ranges, -, h⟩ := GoResult.bind_eq_ok.mp h
  obtain ⟨⟨chosen, st⟩, hhist, h⟩ := GoResult.bind_eq_ok.mp h
  cases chosen with
  | some ip₁ =>
    cases h
    exact ⟨rfl, granted_allocateHistory hhist⟩
  | none =>
    obtain ⟨⟨ip₁, st₁⟩, hget, h⟩ := GoResult.bind_eq_ok.mp h
    cases h
    exact ⟨rfl, (granted_allocateHistory hhist).trans (granted_get hget)⟩

end Choice

structure Draft where
  cluster : Option HarvesterCluster
  pool : Option (String × IPPool)

namespace Draft

def fresh : Draft := ⟨none, none⟩

def next (e : Draft) : (r : Req) → Resp r → Draft
  | .getCluster, .ok c => { e with cluster := some c }
  | .getPool n, .ok p => { e with pool := some (n, p) }
  | .createPool n _, .ok p => { e with pool := some (n, p) }
  | .updatePool _ _, _ => { e with pool := none }
  | _, _ => e

theorem cluster_next (e : Draft) (r : Req) (x : Resp r) :
    (e.next r x).cluster = readCluster e.cluster r x := by
  cases r with
  | getCluster | getPool | createPool => cases x <;> rfl
  | _ => rfl

end Draft

/-- A pool is written with a choice for the load balancer of the cluster, made on the pool as it
was read. -/
def DraftGuard (a : Allocator) (k : ObjectKey) (e : Draft) : Req → Prop
  | .getCluster => e.cluster = none
  | .updatePool n p' => ∃ c p ip, e.cluster = some c ∧ e.pool = some (n, p) ∧
      chooseIPFromPool a p (lbID k c) = .ok (ip, p')
  | _ => True

def draftContract (a : Allocator) : Contract ObjectKey Req Draft := ⟨DraftGuard a, fun _ _ => True⟩

def drafting (ext : Externals) : Controller ObjectKey Req Resp Answer World (View × Draft) Env :=
  (system ext).observe Draft.next .fresh

section Drafts

variable {ext : Externals} {sc : Scope} {k : ObjectKey} {c s : HarvesterCluster} {e : Draft}

structure Aims (c : HarvesterCluster) (e : Draft) (s : HarvesterCluster) : Prop where
  cluster : e.cluster = some c
  targetNamespace : s.spec.targetNamespace = c.spec.targetNamespace

theorem Aims.next (h : Aims c e s) (r : Req) (hr : r ≠ .getCluster) (x : Resp r) :
    Aims c (e.next r x) s := by
  refine ⟨?_, h.targetNamespace⟩
  rw [e.cluster_next, readCluster_of_ne hr, h.cluster]

abbrev Drafts {α : Type} (ext : Externals) (k : ObjectKey) (c : HarvesterCluster) (b : Pass α) :
    Prop := Body.Maintains (DraftGuard ext.allocator k) Draft.next (Aims c) b

theorem drafts_call {r : Req} (hget : r ≠ .getCluster) (hupdate : ∀ n p, r ≠ .updatePool n p) :
    Drafts ext k c (call r) := by
  refine .request fun e s h => ⟨?_, h.next r hget⟩
  cases r with
  | getCluster => exact absurd rfl hget
  | updatePool n p => exact absurd rfl (hupdate n p)
  | _ => trivial

theorem drafts_modifyStatus (f : HarvesterClusterStatus → HarvesterClusterStatus) :
    Drafts ext k c (modifyStatus f) := .modify fun _ _ h => ⟨h.cluster, h.targetNamespace⟩

theorem drafts_setCondition (type : String) (cond : Condition) :
    Drafts ext k c (setCondition type cond) := drafts_modifyStatus _

theorem drafts_modifySpec {f : HarvesterClusterSpec → HarvesterClusterSpec}
    (ht : ∀ spec, (f spec).targetNamespace = spec.targetNamespace) :
    Drafts ext k c (modifySpec f) :=
  .modify fun _ s h => ⟨h.cluster, (ht s.spec).trans h.targetNamespace⟩

theorem drafts_indifferent :
    Indifferent (DraftGuard ext.allocator k) Draft.next (Aims c) where
  call {r} hr := by
    refine drafts_call ?_ fun n p => ?_
    · rintro rfl
      cases hr
    · rintro rfl
      cases hr
  report _ _ := drafts_modifyStatus _
  server _ := drafts_modifySpec fun _ => rfl
  failureDomains _ := drafts_modifyStatus _

theorem drafts_createIPPoolIfNotExists (h : Aims c e s) :
    Body.Conforms (DraftGuard ext.allocator k) Draft.next e (createIPPoolIfNotExists sc) s
      fun e' out s' => Aims c e' s' ∧ ∀ got, out = some (.ok got) → e'.pool = some got := by
  unfold createIPPoolIfNotExists
  -- Left in place, the generated name is evaluated where the code compares it with "".
  generalize sc.key.lbPoolName = name
  refine .get_bind (.request_bind trivial fun created => ?_)
  have h₁ := h.next (.createPool name (lbPoolToCreate sc.key s.spec.loadBalancerConfig.ipPool))
    nofun created
  cases created with
  | error err =>
    dsimp only
    split_ifs
    · refine .request_bind trivial fun got => ?_
      have h₂ := h₁.next (.getPool name) nofun got
      cases got with
      | error err => exact ⟨h₂, nofun⟩
      | ok pool =>
        refine ⟨h₂, fun got hgot => ?_⟩
        obtain rfl := Except.ok.inj (Option.some.inj hgot)
        rfl
    · exact ⟨⟨h₁.cluster, h₁.targetNamespace⟩, nofun⟩
  | ok pool =>
    dsimp only
    split_ifs
    · exact ⟨h₁, nofun⟩
    · refine ⟨⟨h₁.cluster, h₁.targetNamespace⟩, fun got hgot => ?_⟩
      obtain rfl := Except.ok.inj (Option.some.inj hgot)
      rfl

theorem drafts_lbPool (h : Aims c e s) :
    Body.Conforms (DraftGuard ext.allocator k) Draft.next e (lbPool sc) s
      fun e' out s' => Aims c e' s' ∧ ∀ got, out = some (.ok got) → e'.pool = some got := by
  unfold lbPool
  refine .get_bind ?_
  dsimp only
  split_ifs
  · exact ⟨h, nofun⟩
  · refine (drafts_createIPPoolIfNotExists h).bind ?_ fun e' s' h' => ⟨h'.1, nofun⟩
    rintro e₁ (err | got) s₁ ⟨h₁, hpool⟩
    · exact ⟨h₁, nofun⟩
    · refine ⟨⟨h₁.cluster, h₁.targetNamespace⟩, fun got' hgot => ?_⟩
      obtain rfl := Except.ok.inj (Option.some.inj hgot)
      exact hpool _ rfl
  · refine .request_bind trivial fun got => ?_
    have h₁ := h.next (.getPool s.spec.loadBalancerConfig.ipPoolRef) nofun got
    cases got with
    | error err => exact ⟨h₁, nofun⟩
    | ok pool =>
      refine ⟨h₁, fun got hgot => ?_⟩
      obtain rfl := Except.ok.inj (Option.some.inj hgot)
      rfl

theorem drafts_getIPFromIPPool (h : Aims c e s) :
    Body.Conforms (DraftGuard ext.allocator sc.key) Draft.next e
      (getIPFromIPPool ext sc (lbID sc.key c)) s fun e' _ s' => Aims c e' s' := by
  unfold getIPFromIPPool
  refine .get_bind ((drafts_lbPool h).bind ?_ fun _ _ h' => h'.1)
  rintro e₁ (err | ⟨name, pool⟩) s₁ ⟨h₁, hpool⟩
  · exact h₁
  · dsimp only
    split_ifs
    · exact h₁
    · unfold allocateIPFromPool
      cases hchoice : chooseIPFromPool ext.allocator pool (lbID sc.key c) with
      | panic => exact h₁
      | err err => exact h₁
      | ok chosen =>
        obtain ⟨ip, pool'⟩ := chosen
        refine .request_bind ⟨c, pool, ip, h₁.cluster, hpool _ rfl, hchoice⟩ fun updated => ?_
        have h₂ := h₁.next (.updatePool name pool') nofun updated
        cases updated <;> exact h₂

theorem Aims.lbID (h : Aims c e s) : s.spec.targetNamespace ++ "/" ++ k.lbName = lbID k c := by
  rw [Cluster.lbID, h.targetNamespace]

theorem drafts_createPlaceholder : Drafts ext sc.key c (createPlaceholder ext sc) := by
  intro e s h
  unfold createPlaceholder
  refine .get_bind ?_
  have hplaceholder : Body.Conforms (DraftGuard ext.allocator sc.key) Draft.next e
      (placeholderIP ext sc s) s fun e' _ s' => Aims c e' s' := by
    unfold placeholderIP
    split_ifs
    · rw [h.lbID]
      exact drafts_getIPFromIPPool h
    · exact h
  refine hplaceholder.bind ?_ fun _ _ h' => h'
  rintro e₁ (err | ip) s₁ h₁
  · exact h₁
  · refine .request_bind trivial fun created => ?_
    have h₂ := h₁.next (.createService (lbKey sc s) ip) nofun created
    cases created with
    | ok u => exact h₂
    | error err =>
      dsimp only
      split_ifs <;> exact h₂

theorem drafts_refreshPlaceholder (svc : Versioned Service) :
    Drafts ext sc.key c (refreshPlaceholder ext sc svc) := by
  intro e s h
  unfold refreshPlaceholder
  refine .get_bind ?_
  split_ifs
  · rw [h.lbID]
    refine (drafts_getIPFromIPPool h).bind ?_ fun _ _ h' => h'
    rintro e₁ (err | ip) s₁ h₁
    · exact h₁
    · refine .request_bind trivial fun updated => ?_
      have h₂ := h₁.next (.updateService (lbKey sc s)
        { svc with val := { svc.val with loadBalancerIP := ip } }) nofun updated
      cases updated <;> exact h₂
  · exact h

theorem drafts_reconcilePlaceholder : Drafts ext sc.key c (reconcilePlaceholder ext sc) := by
  refine .bind .get fun s => .bind (drafts_call nofun nofun) fun existing => ?_
  cases existing with
  | error err =>
    dsimp only
    split_ifs
    · exact drafts_createPlaceholder
    · exact .pure _
  | ok svc =>
    dsimp only
    split
    · exact drafts_refreshPlaceholder svc
    · split_ifs
      · exact drafts_refreshPlaceholder svc
      · exact .bind (drafts_modifySpec fun _ => rfl) fun _ =>
          .bind (drafts_modifyStatus _) fun _ => .pure _

theorem drafts_reconcileInfrastructure (sc : Scope) :
    Drafts ext sc.key c (reconcileInfrastructure ext sc) := by
  have hi : Indifferent (DraftGuard ext.allocator sc.key) Draft.next (Aims c) := drafts_indifferent
  have href : Drafts ext sc.key c (setVMPoolRef sc.key.vmPoolName) :=
    drafts_modifySpec fun _ => rfl
  refine maintains_reconcileInfrastructure hi
    (maintains_reconcileVMIPPool hi href fun p => maintains_createVMIPPool hi
      (fun _ => drafts_call nofun nofun) href (fun _ => drafts_modifyStatus _) p)
    drafts_reconcilePlaceholder ?_
  exact maintains_reconcileLoadBalancer hi
    (maintains_reconcileCloudProviderConfig hi (fun _ _ => drafts_call nofun nofun)
      fun _ => drafts_modifyStatus _)
    (maintains_awaitLoadBalancer hi (fun _ => drafts_modifySpec fun _ => rfl)
      (drafts_modifyStatus _) fun _ => drafts_modifyStatus _)
    (maintains_reconcileFleetIntegration hi (fun _ _ => drafts_call nofun nofun)
      fun _ => drafts_setCondition _ _)

theorem drafts_finalizers (f : List String → List String) :
    Drafts ext k c (Body.modify fun s => { s with finalizers := f s.finalizers }) :=
  .modify fun _ _ h => ⟨h.cluster, h.targetNamespace⟩

theorem drafts_reconcileDelete (sc : Scope) : Drafts ext sc.key c (reconcileDelete sc) :=
  maintains_reconcileDelete drafts_indifferent (fun _ => drafts_call nofun nofun)
    (fun _ => drafts_call nofun nofun) (drafts_modifyStatus _)
    (maintains_deleteVMIPPool (fun _ => drafts_call nofun nofun) (drafts_modifyStatus _)
      drafts_finalizers)

/-- The passes keep to both contracts. -/
theorem keeps_drafts (ext : Externals) :
    (drafting ext).Keeps (contract.both (draftContract ext.allocator)) := by
  refine keeps_observed (J := Aims) (fun _ _ _ => ⟨fun _ => trivial, fun _ => trivial,
    fun _ => trivial⟩) (fun _ => rfl) (fun _ => ⟨rfl, rfl⟩) fun k c => ?_
  exact maintains_reconcileBody drafts_indifferent (fun _ _ => drafts_call nofun nofun)
    (drafts_modifyStatus _)
    (fun owner => maintains_reconcileNormal (drafts_reconcileInfrastructure ⟨k, owner⟩)
      drafts_finalizers)
    fun owner => drafts_reconcileDelete ⟨k, owner⟩

end Drafts

end Cluster

end Caphv
