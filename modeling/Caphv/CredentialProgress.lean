import Caphv.CredentialRuns

namespace Caphv.Credentials

namespace World

variable (w : World)

def ensureAccount (n : NamespacedName) (uid : String) : World :=
  if (w.accounts.lookup n).isSome then w else { w with accounts := w.accounts.insert n uid }

def ensureBinding (name : String) (b : ClusterRoleBinding) : World :=
  if (w.bindings.lookup name).isSome then w else { w with bindings := w.bindings.insert name b }

def ensureSecret (n : NamespacedName) (s : Secret) : World :=
  if (w.secrets.lookup n).isSome then w else { w with secrets := w.secrets.insert n s }

end World

def server (c : Call) (uid : String) (vip : Option String) (w : World) (r : Req) :
    Resp r × World := exec c r (answered uid vip r) w

section Serve

variable {codec : Codec} {c : Call} {uid : String} {vip : Option String} {w : World}

theorem serve_account (hname : c.saName ≠ "") :
    Prog.serve (server c uid vip) w (createServiceAccountIfNotExists c) =
      (.ok (), w.ensureAccount c.account uid) := by
  have hget : server c uid vip w (.getServiceAccount c.account) =
      (found ((w.accounts.lookup c.account).map fun uid => ⟨c.saName, uid⟩), w) := by
    show (w.getServiceAccount c.account, w) = _
    rw [World.getServiceAccount, if_neg (show ¬ c.account.name = "" from hname)]
    rfl
  unfold createServiceAccountIfNotExists World.ensureAccount
  rw [Prog.serve_request_bind, hget]
  cases hs : w.accounts.lookup c.account with
  | some u => rfl
  | none =>
    have hcreate : server c uid vip w (.createServiceAccount c.account) =
        (.ok (), { w with accounts := w.accounts.insert c.account uid }) := by
      show Fault.write Fault.none w (w.createServiceAccount c.account uid) = _
      rw [World.createServiceAccount, hs]
      rfl
    show Prog.serve _ _ (call (.createServiceAccount c.account) >>= _) = _
    rw [Prog.serve_request_bind, hcreate]
    rfl

theorem serve_binding (hname : c.saName ≠ "") :
    Prog.serve (server c uid vip) w (createClusterRoleBindingIfNotExists c) =
      (.ok (), w.ensureBinding c.saName c.clusterRoleBinding) := by
  have hget : server c uid vip w (.getClusterRoleBinding c.saName) =
      (found ((w.bindings.lookup c.saName).map fun _ => ()), w) := by
    show (w.getClusterRoleBinding c.saName, w) = _
    rw [World.getClusterRoleBinding, if_neg hname]
  unfold createClusterRoleBindingIfNotExists World.ensureBinding
  rw [Prog.serve_request_bind, hget]
  cases hs : w.bindings.lookup c.saName with
  | some u => rfl
  | none =>
    have hcreate : server c uid vip w (.createClusterRoleBinding c.saName c.clusterRoleBinding) =
        (.ok (), { w with bindings := w.bindings.insert c.saName c.clusterRoleBinding }) := by
      show Fault.write Fault.none w (w.createClusterRoleBinding c.saName c.clusterRoleBinding) = _
      rw [World.createClusterRoleBinding, hs]
      rfl
    show Prog.serve _ _ (call (.createClusterRoleBinding _ _) >>= _) = _
    rw [Prog.serve_request_bind, hcreate]
    rfl

def rendered (codec : Codec) (c : Call) (vip : Option String) (s : Secret) :
    Except String String :=
  match buildKubeconfigFromSecret codec s c.ns (serverURL c.server (vip.getD "")) with
  | .error _ => .error ("unable to build a kubeconfig from secret " ++ c.saName)
  | .ok kubeconfig => .ok (codec.encodeBase64 kubeconfig)

theorem serve_kubeConfigFrom {n : NamespacedName} {s : Secret}
    (hs : w.secrets.lookup n = some s) :
    Prog.serve (server c uid vip) w (kubeConfigFrom codec c n) = (rendered codec c vip s, w) := by
  have hget : server c uid vip w (.getSecret n) = (.ok s, w) := by
    show (found (w.secrets.lookup n), w) = _
    rw [hs]
    rfl
  unfold kubeConfigFrom rendered
  rw [Prog.serve_request_bind, hget]
  show Prog.serve _ _ (call .getIngressExpose >>= _) = _
  rw [Prog.serve_request_bind]
  dsimp only [server, exec, answered]
  cases buildKubeconfigFromSecret codec s c.ns (serverURL c.server (vip.getD "")) <;> rfl

/-- `getKubeConfig` makes the Secret if it has to, and renders what it then reads. -/
theorem serve_getKubeConfig (hname : c.saName ≠ "") {u : String} {s : Secret}
    (haccount : w.accounts.lookup c.account = some u)
    (hs : (w.ensureSecret c.secretName (tokenSecret ⟨c.saName, u⟩)).secrets.lookup c.secretName =
      some s) :
    Prog.serve (server c uid vip) w (getKubeConfig codec c) =
      (rendered codec c vip s,
        w.ensureSecret c.secretName (tokenSecret ⟨c.saName, u⟩)) := by
  have hget : server c uid vip w (.getServiceAccount c.account) = (.ok ⟨c.saName, u⟩, w) := by
    show (w.getServiceAccount c.account, w) = _
    rw [World.getServiceAccount, if_neg (show ¬ c.account.name = "" from hname), haccount]
    rfl
  unfold getKubeConfig
  rw [Prog.serve_request_bind, hget]
  refine (Prog.serve_request_bind _ _ _).trans ?_
  unfold World.ensureSecret at hs ⊢
  cases hstored : w.secrets.lookup c.secretName with
  | some s₀ =>
    have hcreate : server c uid vip w (.createSecret ⟨c.ns, c.saName ++ "-token"⟩
        (tokenSecret ⟨c.saName, u⟩)) = (.error .alreadyExists, w) := by
      show Fault.write Fault.none w (w.createSecret c.secretName _) = _
      rw [World.createSecret, hstored]
      rfl
    dsimp only
    rw [hcreate]
    rw [hstored] at hs
    exact serve_kubeConfigFrom hs
  | none =>
    have hcreate : server c uid vip w (.createSecret ⟨c.ns, c.saName ++ "-token"⟩
        (tokenSecret ⟨c.saName, u⟩)) = (.ok (), { w with
          secrets := w.secrets.insert c.secretName (tokenSecret ⟨c.saName, u⟩) }) := by
      show Fault.write Fault.none w (w.createSecret c.secretName _) = _
      rw [World.createSecret, hstored]
      rfl
    dsimp only
    rw [hcreate]
    rw [hstored] at hs
    exact serve_kubeConfigFrom hs

def World.registered (w : World) (c : Call) (uid : String) : World :=
  (w.ensureAccount c.account uid).ensureBinding c.saName c.clusterRoleBinding

/-- The world after a call that was not interrupted. -/
def World.settled (w : World) (c : Call) (uid : String) : World :=
  (w.registered c uid).ensureSecret c.secretName
    (tokenSecret ⟨c.saName, ((w.registered c uid).accounts.lookup c.account).getD ""⟩)

theorem accounts_ensureBinding (w : World) (name : String) (b : ClusterRoleBinding) :
    (w.ensureBinding name b).accounts = w.accounts := by
  unfold World.ensureBinding
  split_ifs <;> rfl

theorem registered_account (w : World) (c : Call) (uid : String) :
    ∃ u, (w.registered c uid).accounts.lookup c.account = some u ∧
      ∀ u', w.accounts.lookup c.account = some u' → u = u' := by
  rw [World.registered, accounts_ensureBinding, World.ensureAccount]
  cases hs : w.accounts.lookup c.account with
  | some u => exact ⟨u, hs, fun _ => Option.some.inj⟩
  | none => exact ⟨uid, Table.lookup_insert_eq _ _ _ _ |>.trans (if_pos rfl), nofun⟩

/-- A call that is not interrupted leaves the account, the binding and the Secret in place, and
its result is what the Secret renders to. -/
theorem serve_getCloudConfigB64 (hname : c.saName ≠ "") {s : Secret}
    (hs : (w.settled c uid).secrets.lookup c.secretName = some s) :
    Prog.serve (server c uid vip) w (getCloudConfigB64 codec c) =
      (rendered codec c vip s, w.settled c uid) := by
  obtain ⟨u, hu, -⟩ := registered_account w c uid
  unfold World.settled at hs ⊢
  rw [hu] at hs ⊢
  unfold getCloudConfigB64
  refine (Prog.serve_bind _ _ _).trans ?_
  rw [serve_account hname]
  refine (Prog.serve_bind _ _ _).trans ?_
  rw [serve_binding hname]
  exact serve_getKubeConfig hname hu hs

end Serve

section Own

variable {codec : Codec} {c : Call} {d : Caller} {w w' : World} {v : Caller → View} {s : Secret}

/-- Nobody else writes the Secret of the call or deletes its account. -/
def AccountKept (c : Call) : CredentialEvent → Prop
  | .env (.putSecret n _) => n ≠ c.secretName
  | .env (.eraseAccount n) => n ≠ c.account
  | _ => True

instance (c : Call) : DecidablePred (AccountKept c) := fun e => by
  unfold AccountKept
  casesm* CredentialEvent, Env <;> infer_instance

/-- The Secret asks for a token of the account of the call, as it is. -/
structure OwnSecret (c : Call) (w : World) (s : Secret) : Prop where
  type : s.type = tokenType
  account : s.account c.ns = some c.account
  uid : ∃ uid, s.annotations.lookup uidKey = some uid ∧ w.accounts.lookup c.account = some uid

theorem OwnSecret.live (h : OwnSecret c w s) : Live w c.secretName s := by
  obtain ⟨uid, huid, hcurrent⟩ := h.uid
  exact ⟨h.type, c.account, h.account, uid, huid, hcurrent⟩

theorem OwnSecret.mono (h : OwnSecret c w s)
    (hw : ∀ uid, w.accounts.lookup c.account = some uid → w'.accounts.lookup c.account = some uid) :
    OwnSecret c w' s := by
  obtain ⟨uid, huid, hcurrent⟩ := h.uid
  exact ⟨h.type, h.account, uid, huid, hw uid hcurrent⟩

theorem OwnSecret.withToken (h : OwnSecret c w s) (token ca : String) :
    OwnSecret c w (s.withToken token ca) := ⟨h.type, h.account, h.uid⟩

theorem ownSecret_tokenSecret {sa : ServiceAccount} (hname : sa.name = c.saName)
    (huid : w.accounts.lookup c.account = some sa.uid) : OwnSecret c w (tokenSecret sa) where
  type := rfl
  account := by rw [tokenSecret_account, Call.account, hname]
  uid := ⟨sa.uid, by rw [tokenSecret, Table.lookup_insert_eq, if_pos rfl], huid⟩

structure OwnInv (c : Call) (w : World) (v : Caller → View) : Prop where
  name : ∀ d sa, (v d).account = some sa → sa.name = d.saName
  current : ∀ d sa, d.account = c.account → (v d).account = some sa →
    w.accounts.lookup c.account = some sa.uid
  stored : ∀ s, w.secrets.lookup c.secretName = some s → OwnSecret c w s

theorem OwnInv.update (h : OwnInv c w v) {u : View}
    (hu : ∀ sa, u.account = some sa → sa.name = d.saName ∧
      (d.account = c.account → w.accounts.lookup c.account = some sa.uid)) :
    OwnInv c w (Function.update v d u) where
  name := forall_update (Q := fun d (u : View) => ∀ sa, u.account = some sa → sa.name = d.saName)
    (fun sa hsa => (hu sa hsa).1) fun j _ => h.name j
  current := forall_update (Q := fun d (u : View) => ∀ sa, d.account = c.account →
    u.account = some sa → w.accounts.lookup c.account = some sa.uid)
    (fun sa hd hsa => (hu sa hsa).2 hd) fun j _ => h.current j
  stored := h.stored

/-- The account of the call stays as it is, and its Secret asks for it. -/
theorem OwnInv.store (h : OwnInv c w v)
    (hw : ∀ uid, w.accounts.lookup c.account = some uid → w'.accounts.lookup c.account = some uid)
    (hstored : ∀ s, w'.secrets.lookup c.secretName = some s → OwnSecret c w' s) :
    OwnInv c w' v where
  name := h.name
  current d sa hd hsa := hw _ (h.current d sa hd hsa)
  stored := hstored

/-- An account is not created twice. -/
theorem lookup_insert_absent {κ ν : Type} [DecidableEq κ] {t : Table κ ν} {n m : κ} {x y : ν}
    (habsent : t.lookup n = none) (h : t.lookup m = some y) :
    (t.insert n x).lookup m = some y := by
  rw [Table.lookup_insert_eq, if_neg]
  · exact h
  · rintro rfl
    exact nomatch habsent.symm.trans h

theorem OwnInv.effect (h : OwnInv c w v) {v' : View} {r : Req}
    (he : Effect d.toCall w (v d) r w' v') (hg : Guard codec d.toCall (v d) r) :
    OwnInv c w' (Function.update v d v') := by
  have hself : OwnInv c w (Function.update v d (v d)) := by rwa [Function.update_eq_self]
  have hview : ∀ sa, (v d).account = some sa → sa.name = d.saName ∧
      (d.account = c.account → w.accounts.lookup c.account = some sa.uid) :=
    fun sa hsa => ⟨h.name d sa hsa, fun hd => h.current d sa hd hsa⟩
  cases he with
  | same => exact hself
  | @account n sa hname hs =>
    obtain rfl := hg
    refine h.update fun sa' hsa => ?_
    obtain rfl := Option.some.inj hsa
    exact ⟨hname, fun hd => hd ▸ hs⟩
  | newAccount habsent =>
    exact hself.store (fun _ => lookup_insert_absent habsent) fun s hs =>
      (h.stored s hs).mono fun _ => lookup_insert_absent habsent
  | binding _ => exact h.update hview
  | newBinding _ =>
    refine OwnInv.store (w := w) (h.update hview) (fun _ => id) fun s hs => ?_
    exact (h.stored s hs).mono fun _ => id
  | newSecret _ =>
    obtain ⟨sa, hsa, rfl, rfl⟩ := hg
    refine hself.store (fun _ => id) fun s hs => ?_
    rw [Table.lookup_insert_eq] at hs
    split_ifs at hs with hn
    · obtain rfl := Option.some.inj hs
      have hname := h.name d sa hsa
      have hd := secretName_inj hname hn.symm
      refine ownSecret_tokenSecret ?_ (h.current d sa hd hsa)
      rw [hname]
      exact (NamespacedName.mk.inj hd).2
    · exact (h.stored s hs).mono fun _ => id
  | secret _ => exact h.update hview
  | ingress => exact h.update hview
  | delivered => exact hself.store (fun _ => id) fun s hs => (h.stored s hs).mono fun _ => id

theorem OwnInv.env (h : OwnInv c w v) {e : Env} (he : EnvEffect w e w')
    (hok : AccountKept c (.env e)) : OwnInv c w' v := by
  have hkeep : ∀ {w' : World}, w'.accounts = w.accounts → w'.secrets = w.secrets →
      OwnInv c w' v := fun haccounts hsecrets => by
    refine h.store (fun _ => haccounts ▸ id) fun s hs => ?_
    exact (h.stored s (hsecrets ▸ hs)).mono fun _ => haccounts ▸ id
  cases he with
  | same => exact h
  | @issue n token ca uid s a hs _ ha _ =>
    refine h.store (fun _ => id) fun s' hs' => ?_
    rw [Table.lookup_insert_eq] at hs'
    split_ifs at hs' with hn
    · obtain rfl := Option.some.inj hs'
      exact ((h.stored s (hn ▸ hs)).withToken token ca).mono fun _ => id
    · exact (h.stored s' hs').mono fun _ => id
  | collect _ _ =>
    refine h.store (fun _ => id) fun s hs => ?_
    rw [Table.lookup_erase_eq] at hs
    split_ifs at hs
    exact (h.stored s hs).mono fun _ => id
  | putSecret =>
    refine h.store (fun _ => id) fun s hs => ?_
    rw [Table.lookup_insert_eq, if_neg (Ne.symm hok)] at hs
    exact (h.stored s hs).mono fun _ => id
  | createAccount habsent =>
    exact h.store (fun _ => lookup_insert_absent habsent) fun s hs =>
      (h.stored s hs).mono fun _ => lookup_insert_absent habsent
  | @eraseAccount n =>
    have hw : ∀ uid, w.accounts.lookup c.account = some uid →
        (w.accounts.erase n).lookup c.account = some uid := fun uid hu => by
      rwa [Table.lookup_erase_eq, if_neg (Ne.symm hok)]
    exact h.store hw fun s hs => (h.stored s hs).mono hw
  | putBinding => exact hkeep rfl rfl
  | eraseBinding => exact hkeep rfl rfl

theorem ownInv_preserves (codec : Codec) (c : Call) :
    (system codec).Preserves (contract codec) (fun _ _ => AccountKept c) (OwnInv c) := by
  refine preserves_of_effects (fun d h => h.update nofun) ?_ fun _ he hok h => h.env he hok
  intro w w' v v' d r a he hg _ h
  exact h.effect he hg

end Own

section Retry

variable {codec : Codec} {c : Call} {w : World} {uid : String} {s : Secret}

theorem secrets_registered (w : World) (c : Call) (uid : String) :
    (w.registered c uid).secrets = w.secrets := by
  unfold World.registered World.ensureBinding World.ensureAccount
  split_ifs <;> rfl

theorem accounts_ensureSecret (w : World) (n : NamespacedName) (s : Secret) :
    (w.ensureSecret n s).accounts = w.accounts := by
  unfold World.ensureSecret
  split_ifs <;> rfl

theorem lookup_ensureSecret (w : World) (n : NamespacedName) (s : Secret) :
    (w.ensureSecret n s).secrets.lookup n = some ((w.secrets.lookup n).getD s) := by
  unfold World.ensureSecret
  cases hs : w.secrets.lookup n with
  | some s₀ => exact hs
  | none => exact (Table.lookup_insert_eq _ _ _ _).trans (if_pos rfl)

/-- A Secret that is there is left alone. -/
theorem settled_of_stored (hs : w.secrets.lookup c.secretName = some s) :
    (w.settled c uid).secrets.lookup c.secretName = some s := by
  rw [World.settled, lookup_ensureSecret, secrets_registered, hs]
  rfl

/-- After a call that was not interrupted, the Secret asks for the account. -/
theorem ownSecret_settled (h : ∀ s, w.secrets.lookup c.secretName = some s → OwnSecret c w s) :
    ∃ s, (w.settled c uid).secrets.lookup c.secretName = some s ∧
      OwnSecret c (w.settled c uid) s := by
  obtain ⟨u, hu, hkept⟩ := registered_account w c uid
  have haccounts : (w.settled c uid).accounts.lookup c.account = some u := by
    rw [World.settled, accounts_ensureSecret]
    exact hu
  cases hs : w.secrets.lookup c.secretName with
  | some s =>
    refine ⟨s, settled_of_stored hs, (h s hs).mono fun u' hu' => ?_⟩
    rw [haccounts, hkept u' hu']
  | none =>
    refine ⟨tokenSecret ⟨c.saName, u⟩, ?_, ownSecret_tokenSecret rfl haccounts⟩
    rw [World.settled, lookup_ensureSecret, secrets_registered, hs, hu]
    rfl

theorem populate_own (hs : w.secrets.lookup c.secretName = some s) (h : OwnSecret c w s)
    (token ca : String) :
    (w.env (.populate c.secretName token ca)).secrets.lookup c.secretName =
      some (s.withToken token ca) := by
  simp only [World.env, hs]
  rw [if_pos h.live]
  exact (Table.lookup_insert_eq _ _ _ _).trans (if_pos rfl)

theorem rendered_withToken {token ca kubeconfig : String} {vip : Option String}
    (hencode : codec.encode (kubeconfigObject token ca c.ns
      (serverURL c.server (vip.getD ""))) = .ok kubeconfig) :
    rendered codec c vip (s.withToken token ca) = .ok (codec.encodeBase64 kubeconfig) := by
  have hca : (s.withToken token ca).data.lookup "ca.crt" = some ca :=
    (Table.lookup_insert_eq _ _ _ _).trans (if_pos rfl)
  have htoken : (s.withToken token ca).data.lookup "token" = some token := by
    rw [Secret.withToken, Table.lookup_insert_eq, if_neg (by decide), Table.lookup_insert_eq,
      if_pos rfl]
  unfold rendered buildKubeconfigFromSecret
  rw [htoken, hca]
  dsimp only
  rw [hencode]

/-- From every state that calls reach, with whatever faults and in whatever order, a call that is
not interrupted leaves a Secret that Harvester fills, and the next call returns a kubeconfig with
the token that Harvester has put there. -/
theorem retry_succeeds (codec : Codec) (c : Call) (hname : c.saName ≠ "") (s : CredentialState)
    (hs : Starts s) (hfree : s.world.secrets.lookup c.secretName = none)
    (acts : List CredentialAction)
    (hok : (system codec).Admissible (fun _ _ => AccountKept c) s acts)
    (uid uid' token ca kubeconfig : String) (vip vip' : Option String)
    (hencode : codec.encode (kubeconfigObject token ca c.ns
      (serverURL c.server (vip'.getD ""))) = .ok kubeconfig) :
    let w := ((system codec).run s acts).world
    let w₁ := (Prog.serve (server c uid vip) w (getCloudConfigB64 codec c)).2
    let w₂ := w₁.env (.populate c.secretName token ca)
    (Prog.serve (server c uid' vip') w₂ (getCloudConfigB64 codec c)).1 =
      .ok (codec.encodeBase64 kubeconfig) := by
  have hinv : OwnInv c s.world s.view := by
    refine ⟨fun d => ?_, fun d sa _ => ?_, fun s hs => nomatch hfree.symm.trans hs⟩
    · rw [hs.unseen d]
      exact nofun
    · rw [hs.unseen d]
      exact nofun
  obtain ⟨h, -⟩ := (ownInv_preserves codec c).run (keeps_contract codec) hs.conforms hinv hok
  intro w w₁ w₂
  have hown : ∃ s₁, (w.settled c uid).secrets.lookup c.secretName = some s₁ ∧
      OwnSecret c (w.settled c uid) s₁ := ownSecret_settled h.stored
  obtain ⟨s₁, hs₁, hown⟩ := hown
  have hw₁ : w₁ = w.settled c uid := congrArg Prod.snd (serve_getCloudConfigB64 hname hs₁)
  have hs₂ : (w₂.settled c uid').secrets.lookup c.secretName = some (s₁.withToken token ca) := by
    refine settled_of_stored ?_
    show (w₁.env _).secrets.lookup _ = _
    rw [hw₁]
    exact populate_own hs₁ hown token ca
  rw [serve_getCloudConfigB64 hname hs₂]
  exact rendered_withToken hencode

end Retry

namespace Sample

def lost : (r : Req) → Answer r
  | .createSecret _ _ => Fault.lose "timeout"
  | r => answered "uid" none r

def interrupted : List CredentialAction := .start edge :: List.replicate 6 (.exec edge lost)

end Sample

open Sample in
theorem retry_succeeds_sample :
    let w := ((system codec).run empty interrupted).world
    let w₁ := (Prog.serve (server edge.toCall "uid" none) w (getCloudConfigB64 codec edge.toCall)).2
    let w₂ := w₁.env (.populate edge.secretName "token-a" "ca")
    (Prog.serve (server edge.toCall "uid" none) w₂ (getCloudConfigB64 codec edge.toCall)).1 =
      .ok "token-a" :=
  retry_succeeds codec edge.toCall (by decide) empty starts_empty rfl interrupted
    (by decide +kernel) "uid" "uid" "token-a" "ca" "token-a" none none (by decide +kernel)

end Caphv.Credentials
