import Caphv.CloudCredentials

namespace Caphv.Credentials

/-- What the call returns for the Secret and the address that it has read. -/
def Renders (codec : Codec) (c : Call) (v : View) (text : String) : Prop :=
  ∃ secret vipIP kubeconfig, v.secret = some secret ∧ v.vipIP = some vipIP ∧
    buildKubeconfigFromSecret codec secret c.ns (serverURL c.server vipIP) = .ok kubeconfig ∧
    text = codec.encodeBase64 kubeconfig

def Guard (codec : Codec) (c : Call) (v : View) : Req → Prop
  | .getServiceAccount n => n = c.account
  | .createServiceAccount n => n = c.account
  | .getClusterRoleBinding name => name = c.saName
  | .createClusterRoleBinding name b => name = c.saName ∧ b = c.clusterRoleBinding
  | .createSecret n s => ∃ sa, v.account = some sa ∧ n = ⟨c.ns, sa.name ++ "-token"⟩ ∧
      s = tokenSecret sa
  | .getSecret n => ∃ sa, v.account = some sa ∧ n = ⟨c.ns, sa.name ++ "-token"⟩
  | .getIngressExpose => True
  | .deliver text => v.bound = true ∧ Renders codec c v text

def contract (codec : Codec) : Contract Caller Req View where
  guard c := Guard codec c.toCall
  done _ _ := True

section Conformance

variable {codec : Codec} {c : Call} {v : View}

abbrev Watch {α : Type} (codec : Codec) (c : Call) (v : View) (p : Routine α)
    (Q : View → α → Prop) : Prop := Prog.Conforms (Guard codec c) View.next v p Q

theorem watch_createServiceAccount :
    Watch codec c v (createServiceAccountIfNotExists c) fun v' _ => v'.bound = v.bound := by
  refine .request_bind rfl fun got => ?_
  cases got with
  | ok sa => exact rfl
  | error e =>
    dsimp only
    split_ifs
    · refine .request_bind rfl fun created => ?_
      cases created <;> exact rfl
    · exact rfl

theorem watch_createClusterRoleBinding :
    Watch codec c v (createClusterRoleBindingIfNotExists c) fun v' out =>
      out = .ok () → v'.bound = true := by
  refine .request_bind rfl fun got => ?_
  cases got with
  | ok u => exact fun _ => rfl
  | error e =>
    dsimp only
    split_ifs
    · refine .request_bind ⟨rfl, rfl⟩ fun created => ?_
      cases created with
      | error e => exact nofun
      | ok u => exact fun _ => rfl
    · exact nofun

theorem watch_kubeConfigFrom {sa : ServiceAccount} (hsa : v.account = some sa) :
    Watch codec c v (kubeConfigFrom codec c ⟨c.ns, sa.name ++ "-token"⟩) fun v' out =>
      v'.bound = v.bound ∧ ∀ text, out = .ok text → Renders codec c v' text := by
  refine .request_bind ⟨sa, hsa, rfl⟩ fun got => ?_
  cases got with
  | error e => exact ⟨rfl, nofun⟩
  | ok secret =>
    refine .request_bind trivial fun vipSVC => ?_
    cases vipSVC with
    | error e => exact ⟨rfl, nofun⟩
    | ok vip =>
      dsimp only
      split
      · exact ⟨rfl, nofun⟩
      · rename_i kubeconfig hbuild
        refine ⟨rfl, fun text htext => ⟨secret, vip.getD "", kubeconfig, rfl, rfl, hbuild, ?_⟩⟩
        exact (Except.ok.inj htext).symm

theorem watch_getKubeConfig :
    Watch codec c v (getKubeConfig codec c) fun v' out =>
      v'.bound = v.bound ∧ ∀ text, out = .ok text → Renders codec c v' text := by
  refine .request_bind rfl fun got => ?_
  cases got with
  | error e => exact ⟨rfl, nofun⟩
  | ok sa =>
    refine .request_bind ⟨sa, rfl, rfl, rfl⟩ fun created => ?_
    cases created with
    | ok u => exact watch_kubeConfigFrom rfl
    | error e =>
      dsimp only
      split_ifs
      · exact watch_kubeConfigFrom rfl
      · exact ⟨rfl, nofun⟩

/-- What a call has learnt when it returns a kubeconfig. -/
theorem watch_getCloudConfigB64 :
    Watch codec c v (getCloudConfigB64 codec c) fun v' out =>
      ∀ text, out = .ok text → v'.bound = true ∧ Renders codec c v' text := by
  refine watch_createServiceAccount.bind fun v₁ account _ => ?_
  cases account with
  | error e => exact nofun
  | ok u =>
    refine watch_createClusterRoleBinding.bind fun v₂ binding hbound => ?_
    cases binding with
    | error e => exact nofun
    | ok u =>
      refine watch_getKubeConfig.mono fun v₃ out h text htext => ?_
      exact ⟨h.1.trans (hbound rfl), h.2 text htext⟩

theorem keeps_contract (codec : Codec) : (system codec).Keeps (contract codec) := by
  intro c
  refine Prog.Conforms.bind watch_getCloudConfigB64 fun v out h => ?_
  cases out with
  | error e => trivial
  | ok text => exact ⟨h text rfl, fun _ => trivial⟩

end Conformance

section Effects

variable (c : Call) (w : World) (v : View)

/-- Everything that a request can do: the request, and the world and the view after it. -/
inductive Effect : Req → World → View → Prop where
  | same {r : Req} : Effect r w v
  | account {n : NamespacedName} {sa : ServiceAccount} (name : sa.name = n.name)
      (stored : w.accounts.lookup n = some sa.uid) :
      Effect (.getServiceAccount n) w { v with account := some sa }
  | newAccount {n : NamespacedName} {uid : String} (absent : w.accounts.lookup n = none) :
      Effect (.createServiceAccount n) { w with accounts := w.accounts.insert n uid } v
  | binding {name : String} {b : ClusterRoleBinding} (stored : w.bindings.lookup name = some b) :
      Effect (.getClusterRoleBinding name) w { v with bound := true }
  | newBinding {name : String} {b : ClusterRoleBinding} {bound : Bool}
      (absent : w.bindings.lookup name = none) :
      Effect (.createClusterRoleBinding name b) { w with bindings := w.bindings.insert name b }
        { v with bound := bound }
  | newSecret {n : NamespacedName} {s : Secret} (absent : w.secrets.lookup n = none) :
      Effect (.createSecret n s) { w with secrets := w.secrets.insert n s } v
  | secret {n : NamespacedName} {s : Secret} (stored : w.secrets.lookup n = some s) :
      Effect (.getSecret n) w { v with secret := some s }
  | ingress {vipIP : String} : Effect .getIngressExpose w { v with vipIP := some vipIP }
  | delivered {text : String} :
      Effect (.deliver text) { w with delivered := (c, text) :: w.delivered } v

inductive EnvEffect : Env → World → Prop where
  | same {e : Env} : EnvEffect e w
  | issue {n : NamespacedName} {token ca uid : String} {s : Secret} {a : NamespacedName}
      (stored : w.secrets.lookup n = some s) (type : s.type = tokenType)
      (account : s.account n.ns = some a) (current : w.accounts.lookup a = some uid) :
      EnvEffect (.populate n token ca) { w with
        secrets := w.secrets.insert n (s.withToken token ca)
        issued := ⟨token, a, uid⟩ :: w.issued }
  | collect {n : NamespacedName} {s : Secret} (stored : w.secrets.lookup n = some s)
      (dead : ¬ Live w n s) : EnvEffect (.collect n) { w with secrets := w.secrets.erase n }
  | putSecret {n : NamespacedName} {s : Secret} :
      EnvEffect (.putSecret n s) { w with secrets := w.secrets.insert n s }
  | createAccount {n : NamespacedName} {uid : String} (absent : w.accounts.lookup n = none) :
      EnvEffect (.createAccount n uid) { w with accounts := w.accounts.insert n uid }
  | eraseAccount {n : NamespacedName} :
      EnvEffect (.eraseAccount n) { w with accounts := w.accounts.erase n }
  | putBinding {name : String} {b : ClusterRoleBinding} :
      EnvEffect (.putBinding name b) { w with bindings := w.bindings.insert name b }
  | eraseBinding {name : String} :
      EnvEffect (.eraseBinding name) { w with bindings := w.bindings.erase name }

variable {c w v}

/-- The inversion of one request, whatever the fault. -/
theorem exec_effect (r : Req) (a : Answer r) :
    Effect c w v r (exec c r a w).2 (v.next r (exec c r a w).1) := by
  cases r with
  | getServiceAccount n =>
    show Effect c w v _ w (v.next (.getServiceAccount n) (Fault.reply a (w.getServiceAccount n)))
    cases hx : Fault.reply a (w.getServiceAccount n) with
    | error e => exact .same
    | ok sa =>
      have hget := Fault.reply_eq_ok hx
      unfold World.getServiceAccount at hget
      split_ifs at hget
      obtain ⟨uid, huid, rfl⟩ := Option.map_eq_some_iff.mp (found_eq_ok hget)
      exact .account rfl huid
  | createServiceAccount n =>
    refine Fault.write_rule (E := fun x w' => Effect c w v (.createServiceAccount n) w'
      (v.next (.createServiceAccount n) x)) (fun x _ w' hout _ => ?_) fun _ _ => .same
    unfold World.createServiceAccount at hout
    split_ifs at hout with hfree
    cases hout
    exact .newAccount (by simpa using hfree)
  | getClusterRoleBinding name =>
    show Effect c w v _ w
      (v.next (.getClusterRoleBinding name) (Fault.reply a (w.getClusterRoleBinding name)))
    cases hx : Fault.reply a (w.getClusterRoleBinding name) with
    | error e => exact .same
    | ok u =>
      have hget := Fault.reply_eq_ok hx
      unfold World.getClusterRoleBinding at hget
      split_ifs at hget
      obtain ⟨b, hb, -⟩ := Option.map_eq_some_iff.mp (found_eq_ok hget)
      exact .binding hb
  | createClusterRoleBinding name b =>
    refine Fault.write_rule (E := fun x w' => Effect c w v (.createClusterRoleBinding name b) w'
      (v.next (.createClusterRoleBinding name b) x)) (fun x _ w' hout _ => ?_) fun _ _ => .same
    unfold World.createClusterRoleBinding at hout
    split_ifs at hout with hfree
    cases hout
    have hnew : ∀ bound, Effect c w v (.createClusterRoleBinding name b)
        { w with bindings := w.bindings.insert name b } { v with bound := bound } :=
      fun _ => .newBinding (by simpa using hfree)
    cases x with
    | error e => exact hnew v.bound
    | ok u => exact hnew true
  | createSecret n s =>
    refine Fault.write_rule (E := fun x w' => Effect c w v (.createSecret n s) w'
      (v.next (.createSecret n s) x)) (fun x _ w' hout _ => ?_) fun _ _ => .same
    unfold World.createSecret at hout
    split_ifs at hout with hfree
    cases hout
    exact .newSecret (by simpa using hfree)
  | getSecret n =>
    show Effect c w v _ w (v.next (.getSecret n) (Fault.reply a (found (w.secrets.lookup n))))
    cases hx : Fault.reply a (found (w.secrets.lookup n)) with
    | error e => exact .same
    | ok s => exact .secret (found_eq_ok (Fault.reply_eq_ok hx))
  | getIngressExpose =>
    show Effect c w v _ w (v.next .getIngressExpose a)
    cases a with
    | error e => exact .same
    | ok vip => exact .ingress
  | deliver text => exact .delivered

theorem env_effect (e : Env) : EnvEffect w e (w.env e) := by
  cases e with
  | populate n token ca =>
    simp only [World.env]
    split
    · exact .same
    · rename_i s hs
      split_ifs with hlive
      · obtain ⟨htype, a, ha, uid, huid, hcurrent⟩ := hlive
        rw [Option.mem_def.mp ha, Option.mem_def.mp huid]
        exact .issue hs htype ha hcurrent
      · exact .same
  | collect n =>
    simp only [World.env]
    split
    · exact .same
    · split_ifs with hlive
      · exact .same
      · exact .collect ‹_› hlive
  | putSecret n s => exact .putSecret
  | createAccount n uid =>
    simp only [World.env]
    split_ifs with hfree
    · exact .same
    · exact .createAccount (by simpa using hfree)
  | eraseAccount n => exact .eraseAccount
  | putBinding name b => exact .putBinding
  | eraseBinding name => exact .eraseBinding

/-- An invariant is kept by the calls when every effect keeps it. -/
theorem preserves_of_effects {codec : Codec} {ok : CredentialEvent → Prop}
    {Inv : World → (Caller → View) → Prop}
    (start : ∀ {w v} d, Inv w v → Inv w (Function.update v d .fresh))
    (issue : ∀ {w w' v v'} (d : Caller) {r} (a : Answer r), Effect d.toCall w (v d) r w' v' →
      Guard codec d.toCall (v d) r → ok (.issue d r a) → Inv w v →
      Inv w' (Function.update v d v'))
    (env : ∀ {w w' v} e, EnvEffect w e w' → ok (.env e) → Inv w v → Inv w' v) :
    (system codec).Preserves (contract codec) (fun _ _ => ok) Inv where
  start _ _ d _ h := start d h
  issue _ _ d r a hg hok h := issue d a (exec_effect r a) hg hok h
  env _ _ e hok h := env e (env_effect e) hok h

end Effects

structure Starts (s : CredentialState) : Prop where
  idle : s.Idle
  unseen : ∀ c, s.view c = .fresh
  undelivered : s.world.delivered = []

theorem Starts.conforms {codec : Codec} {s : CredentialState} (h : Starts s) :
    (system codec).Conforms (contract codec) s := .of_idle h.idle fun _ => trivial

section Token

variable {codec : Codec} {c : Call} {d : Caller} {w : World} {v : Caller → View}

/-- Nobody else writes the Secret of the call. -/
def SecretUndisturbed (c : Call) : CredentialEvent → Prop
  | .env (.putSecret n _) => n ≠ c.secretName
  | _ => True

instance (c : Call) : DecidablePred (SecretUndisturbed c) := fun e => by
  unfold SecretUndisturbed
  casesm* CredentialEvent, Env <;> infer_instance

/-- The token in the Secret, if there is one, was issued to the account of the call. -/
def Issued (c : Call) (w : World) (s : Secret) : Prop :=
  ∀ token, s.data.lookup "token" = some token → ∃ uid, ⟨token, c.account, uid⟩ ∈ w.issued

structure TokenInv (c : Call) (w : World) (v : Caller → View) : Prop where
  account : ∀ d sa, (v d).account = some sa → sa.name = d.saName
  stored : ∀ s, w.secrets.lookup c.secretName = some s →
    s.account c.ns = some c.account ∧ Issued c w s
  seen : ∀ d s, d.toCall = c → (v d).secret = some s → Issued c w s

theorem Issued.mono {w' : World} {s : Secret} (h : Issued c w s)
    (hw : ∀ i ∈ w.issued, i ∈ w'.issued) : Issued c w' s := fun token ht => by
  obtain ⟨uid, hmem⟩ := h token ht
  exact ⟨uid, hw _ hmem⟩

theorem secretName_inj {c d : Call} {name : String} (hname : name = d.saName)
    (h : (⟨d.ns, name ++ "-token"⟩ : NamespacedName) = c.secretName) : d.account = c.account := by
  obtain ⟨hns, htoken⟩ := NamespacedName.mk.inj h
  have hsa : name = c.saName := (String.append_left_inj _).mp htoken
  rw [Call.account, Call.account, hns, ← hname, hsa]

theorem tokenSecret_account (sa : ServiceAccount) (ns : String) :
    (tokenSecret sa).account ns = some ⟨ns, sa.name⟩ := by
  unfold tokenSecret Secret.account
  rw [Table.lookup_insert_eq, if_neg (by decide), Table.lookup_insert_eq, if_pos rfl]
  rfl

/-- The view of one call changes. -/
theorem TokenInv.update (h : TokenInv c w v) {u : View}
    (haccount : ∀ sa, u.account = some sa → sa.name = d.saName)
    (hsecret : ∀ s, d.toCall = c → u.secret = some s → Issued c w s) :
    TokenInv c w (Function.update v d u) where
  account := forall_update (Q := fun d (u : View) => ∀ sa, u.account = some sa → sa.name = d.saName)
    haccount fun j _ => h.account j
  stored := h.stored
  seen := forall_update (Q := fun d (u : View) => ∀ s, d.toCall = c → u.secret = some s →
    Issued c w s) hsecret fun j _ => h.seen j

/-- What the Secret of the call holds changes, and no token is forgotten. -/
theorem TokenInv.store (h : TokenInv c w v) {w' : World}
    (hissued : ∀ i ∈ w.issued, i ∈ w'.issued)
    (hstored : ∀ s, w'.secrets.lookup c.secretName = some s →
      s.account c.ns = some c.account ∧ Issued c w' s) : TokenInv c w' v where
  account := h.account
  stored := hstored
  seen d s hd hs := (h.seen d s hd hs).mono hissued

theorem TokenInv.effect (h : TokenInv c w v) {w' : World} {v' : View} {r : Req}
    (he : Effect d.toCall w (v d) r w' v') (hg : Guard codec d.toCall (v d) r) :
    TokenInv c w' (Function.update v d v') := by
  have hself : TokenInv c w (Function.update v d (v d)) := by
    rwa [Function.update_eq_self]
  cases he with
  | same => exact hself
  | account hname _ =>
    obtain rfl := hg
    refine h.update (fun sa hsa => ?_) fun s => h.seen d s
    rw [← Option.some.inj hsa]
    exact hname
  | newAccount _ => exact hself.store (fun _ hi => hi) h.stored
  | binding _ => exact h.update (h.account d) fun s => h.seen d s
  | newBinding _ =>
    refine TokenInv.store (w := w) ?_ (fun _ hi => hi) h.stored
    exact h.update (h.account d) fun s => h.seen d s
  | @newSecret n s _ =>
    obtain ⟨sa, hsa, rfl, rfl⟩ := hg
    have hname := h.account d sa hsa
    refine hself.store (fun _ hi => hi) fun s hs => ?_
    rw [Table.lookup_insert_eq] at hs
    split_ifs at hs with hn
    · -- The new Secret is the one of this call, for the same account, and has no token yet.
      obtain rfl := Option.some.inj hs
      have haccount := secretName_inj hname hn.symm
      refine ⟨?_, nofun⟩
      rw [tokenSecret_account, ← haccount, Call.account, hname, ← (NamespacedName.mk.inj hn).1]
    · exact h.stored s hs
  | @secret n s hs =>
    refine h.update (h.account d) fun s' hd hs' => ?_
    obtain ⟨sa, hsa, rfl⟩ := hg
    obtain rfl := Option.some.inj hs'
    refine (h.stored s ?_).2
    rw [← hs, Call.secretName, ← hd, h.account d sa hsa]
  | ingress => exact h.update (h.account d) fun s => h.seen d s
  | delivered => exact hself.store (fun _ hi => hi) h.stored

theorem TokenInv.env (h : TokenInv c w v) {w' : World} {e : Env} (he : EnvEffect w e w')
    (hok : SecretUndisturbed c (.env e)) : TokenInv c w' v := by
  cases he with
  | same => exact h
  | @issue n token ca uid s a hs _ ha _ =>
    have hmono : ∀ i ∈ w.issued, i ∈ ⟨token, a, uid⟩ :: w.issued := fun _ hi =>
      List.mem_cons_of_mem _ hi
    refine h.store hmono fun s' hs' => ?_
    rw [Table.lookup_insert_eq] at hs'
    split_ifs at hs' with hn
    · obtain rfl := Option.some.inj hs'
      subst hn
      obtain ⟨haccount, _⟩ := h.stored s hs
      refine ⟨haccount, fun token' htoken => ⟨uid, ?_⟩⟩
      obtain rfl := Option.some.inj (ha.symm.trans haccount)
      have heq : token' = token := by
        simpa [Secret.withToken, Table.lookup_insert_eq] using htoken.symm
      rw [heq]
      exact List.mem_cons_self
    · exact ⟨(h.stored s' hs').1, (h.stored s' hs').2.mono hmono⟩
  | collect _ _ =>
    refine h.store (fun _ hi => hi) fun s hs => ?_
    rw [Table.lookup_erase_eq] at hs
    split_ifs at hs
    exact h.stored s hs
  | putSecret =>
    refine h.store (fun _ hi => hi) fun s hs => ?_
    rw [Table.lookup_insert_eq, if_neg (Ne.symm hok)] at hs
    exact h.stored s hs
  | createAccount _ => exact h.store (fun _ hi => hi) h.stored
  | eraseAccount => exact h.store (fun _ hi => hi) h.stored
  | putBinding => exact h.store (fun _ hi => hi) h.stored
  | eraseBinding => exact h.store (fun _ hi => hi) h.stored

theorem tokenInv_preserves (codec : Codec) (c : Call) :
    (system codec).Preserves (contract codec) (fun _ _ => SecretUndisturbed c)
      (TokenInv c) := by
  refine preserves_of_effects (fun _ h => h.update nofun nofun) ?_ fun _ he hok h => h.env he hok
  intro w w' v v' d r a he hg _ h
  exact h.effect he hg

/-- In every run, whatever the faults and however many calls there are at a time, a kubeconfig
that a call returns carries a token that Harvester has issued to the service account of that call,
as long as nobody else writes its Secret; its server is at the address that the call has read from
the ingress Service, if that holds one, and otherwise the one given. -/
theorem delivered_token_issued (codec : Codec) (d : Caller) (s : CredentialState) (hs : Starts s)
    (hfree : s.world.secrets.lookup d.secretName = none) (acts : List CredentialAction)
    (hok : (system codec).Admissible (fun _ _ => SecretUndisturbed d.toCall) s acts)
    (text : String) (hreq : ((system codec).run s acts).request d = some (.deliver text)) :
    ∃ token ca uid vipIP server kubeconfig,
      ⟨token, d.account, uid⟩ ∈ ((system codec).run s acts).world.issued ∧
      (((system codec).run s acts).view d).vipIP = some vipIP ∧
      (HasQuad vipIP.toList ∧ server = "https://" ++ joinHostPort vipIP "6443" ∨
        ¬ HasQuad vipIP.toList ∧ server = d.server) ∧
      codec.encode (kubeconfigObject token ca d.ns server) = .ok kubeconfig ∧
      text = codec.encodeBase64 kubeconfig := by
  have hinv : TokenInv d.toCall s.world s.view := by
    refine ⟨fun d => ?_, fun s hs => (nomatch hfree.symm.trans hs), fun d => ?_⟩
    · rw [hs.unseen d]
      exact nofun
    · rw [hs.unseen d]
      exact nofun
  obtain ⟨h, hconf⟩ := (tokenInv_preserves codec d.toCall).run (keeps_contract codec) hs.conforms
    hinv hok
  obtain ⟨f, hf⟩ := State.exists_call_of_request hreq
  obtain ⟨-, secret, vipIP, kubeconfig, hsecret, hvip, hbuild, rfl⟩ := hconf.issue hf
  unfold buildKubeconfigFromSecret at hbuild
  split at hbuild
  · cases hbuild
  · rename_i token htoken
    split at hbuild
    · cases hbuild
    · obtain ⟨uid, huid⟩ := h.seen d secret rfl hsecret token htoken
      exact ⟨token, _, uid, vipIP, _, kubeconfig, huid, hvip, serverURL_cases d.server vipIP,
        hbuild, rfl⟩

end Token

namespace Sample

def codec : Codec := ⟨fun cfg => .ok ((cfg.authInfos.lookup "default").getD ""), id⟩

def edge : Caller := ⟨⟨"edge", "ns-a", "https://harvester"⟩, ⟨"fleet-a", "edge", by decide⟩⟩

def edgeB : Caller := ⟨⟨"edge", "ns-b", "https://harvester"⟩, ⟨"fleet-b", "edge", by decide⟩⟩

def empty : CredentialState := ⟨⟨∅, ∅, ∅, [], []⟩, fun _ => .ret (), fun _ => .fresh⟩

theorem starts_empty : Starts empty := ⟨fun _ => rfl, fun _ => rfl, rfl⟩

def requests (n : ℕ) (d : Caller) : List CredentialAction :=
  .start d :: List.replicate n (.exec d (answered "uid" (some "10.0.0.5")))

def whole : Caller → List CredentialAction := requests 9

def twoCalls (d : Caller) (token : String) : List CredentialAction :=
  whole d ++ .env (.populate d.secretName token "ca") :: whole d

def returning : CredentialState :=
  (system codec).run empty (whole edge ++ .env (.populate edge.secretName "token-a" "ca") ::
    requests 6 edge)

end Sample

open Sample in
theorem delivered_token_issued_sample :
    returning.request edge = some (.deliver "token-a") ∧
      (returning.view edge).vipIP = some "10.0.0.5" ∧
      ∃ uid, ⟨"token-a", edge.account, uid⟩ ∈ returning.world.issued := by
  obtain ⟨hreq, hvip⟩ : returning.request edge = some (.deliver "token-a") ∧
      (returning.view edge).vipIP = some "10.0.0.5" := by decide +kernel
  obtain ⟨token, ca, uid, vipIP, server, kubeconfig, hissued, -, -, hencode, htext⟩ :=
    delivered_token_issued codec edge empty starts_empty rfl _ (by decide +kernel) _ hreq
  have htoken : token = "token-a" := by
    obtain rfl := Except.ok.inj hencode
    exact htext.symm
  exact ⟨hreq, hvip, uid, htoken ▸ hissued⟩

section Binding

variable {codec : Codec} {sa : String} {d : Caller} {w w' : World} {v : Caller → View}

/-- Nobody else writes the binding of that name, or binds an account of that name. -/
def BindingUndisturbed (sa : String) : CredentialEvent → Prop
  | .env (.putBinding name b) => name ≠ sa ∧ ∀ s ∈ b.subjects, s.name ≠ sa
  | .env (.eraseBinding name) => name ≠ sa
  | _ => True

instance (sa : String) : DecidablePred (BindingUndisturbed sa) := fun e => by
  unfold BindingUndisturbed
  casesm* CredentialEvent, Env <;> infer_instance

def Authorised (w : World) (a : NamespacedName) : Prop :=
  ∃ name b, w.bindings.lookup name = some b ∧ b.roleKind = "ClusterRole" ∧
    b.roleName = Call.cloudProviderRoleName ∧ ⟨"ServiceAccount", a.name, a.ns⟩ ∈ b.subjects

/-- The binding under the name of the account is that of some call, and no other binding is about
an account of that name. -/
def OwnBinding (sa name : String) (b : ClusterRoleBinding) : Prop :=
  if name = sa then ∃ c : Call, c.saName = sa ∧ b = c.clusterRoleBinding
  else ∀ s ∈ b.subjects, s.name ≠ sa

structure BindingInv (sa : String) (w : World) (v : Caller → View) : Prop where
  stored : ∀ name b, w.bindings.lookup name = some b → OwnBinding sa name b
  bound : ∀ d : Caller, d.saName = sa → (v d).bound = true → (w.bindings.lookup sa).isSome = true
  delivered : ∀ c text, (c, text) ∈ w.delivered → c.saName = sa →
    (w.bindings.lookup sa).isSome = true

theorem Call.ownBinding (c : Call) (sa : String) : OwnBinding sa c.saName c.clusterRoleBinding := by
  unfold OwnBinding
  split_ifs with hsa
  · exact ⟨c, hsa, rfl⟩
  · intro s hs
    rw [List.mem_singleton.mp hs]
    exact hsa

theorem BindingInv.update (h : BindingInv sa w v) {u : View}
    (hbound : d.saName = sa → u.bound = true → (w.bindings.lookup sa).isSome = true) :
    BindingInv sa w (Function.update v d u) where
  stored := h.stored
  bound := forall_update (Q := fun (d : Caller) (u : View) => d.saName = sa → u.bound = true →
    (w.bindings.lookup sa).isSome = true) hbound fun j _ => h.bound j
  delivered := h.delivered

/-- Bindings that are kept or added. -/
theorem BindingInv.store (h : BindingInv sa w v) (hdelivered : w'.delivered = w.delivered)
    (hkept : (w.bindings.lookup sa).isSome = true → (w'.bindings.lookup sa).isSome = true)
    (hstored : ∀ name b, w'.bindings.lookup name = some b → OwnBinding sa name b) :
    BindingInv sa w' v where
  stored := hstored
  bound d hd hb := hkept (h.bound d hd hb)
  delivered c text htext hc := hkept (h.delivered c text (hdelivered ▸ htext) hc)

theorem BindingInv.effect (h : BindingInv sa w v) {v' : View} {r : Req}
    (he : Effect d.toCall w (v d) r w' v') (hg : Guard codec d.toCall (v d) r) :
    BindingInv sa w' (Function.update v d v') := by
  have hself : BindingInv sa w (Function.update v d (v d)) := by rwa [Function.update_eq_self]
  cases he with
  | same => exact hself
  | account _ _ => exact h.update (h.bound d)
  | newAccount _ => exact hself.store rfl id h.stored
  | binding hs =>
    obtain rfl := hg
    exact h.update fun hd _ => by rw [← hd, hs]; rfl
  | @newBinding name b bound habsent =>
    obtain ⟨rfl, rfl⟩ := hg
    have hnew : d.saName = sa → ((w.bindings.insert d.saName d.toCall.clusterRoleBinding).lookup
        sa).isSome = true := fun hd => by rw [Table.lookup_insert_eq, if_pos hd.symm]; rfl
    have hstore : BindingInv sa { w with
        bindings := w.bindings.insert d.saName d.toCall.clusterRoleBinding } v := by
      refine h.store rfl (fun hsome => ?_) fun name b hb => ?_
      · rw [Table.lookup_insert_eq]
        split_ifs
        · rfl
        · exact hsome
      · rw [Table.lookup_insert_eq] at hb
        split_ifs at hb with hname
        · rw [hname, ← Option.some.inj hb]
          exact d.toCall.ownBinding sa
        · exact h.stored name b hb
    exact hstore.update fun hd _ => hnew hd
  | newSecret _ => exact hself.store rfl id h.stored
  | secret _ => exact h.update (h.bound d)
  | ingress => exact h.update (h.bound d)
  | @delivered text =>
    refine ⟨hself.stored, hself.bound, fun c text' htext hc => ?_⟩
    rcases List.mem_cons.mp htext with heq | htext
    · obtain ⟨rfl, -⟩ := Prod.mk.inj heq
      exact h.bound d hc hg.1
    · exact h.delivered c text' htext hc

theorem BindingInv.env (h : BindingInv sa w v) {e : Env} (he : EnvEffect w e w')
    (hok : BindingUndisturbed sa (.env e)) : BindingInv sa w' v := by
  cases he with
  | same => exact h
  | issue _ _ _ _ => exact h.store rfl id h.stored
  | collect _ _ => exact h.store rfl id h.stored
  | putSecret => exact h.store rfl id h.stored
  | createAccount _ => exact h.store rfl id h.stored
  | eraseAccount => exact h.store rfl id h.stored
  | @putBinding name b =>
    obtain ⟨hname, hsubjects⟩ := hok
    refine h.store rfl (fun hsome => ?_) fun name' b' hb => ?_
    · rwa [Table.lookup_insert_eq, if_neg hname.symm]
    · rw [Table.lookup_insert_eq] at hb
      split_ifs at hb with hn
      · rw [hn, ← Option.some.inj hb, OwnBinding, if_neg hname]
        exact hsubjects
      · exact h.stored name' b' hb
  | @eraseBinding name =>
    refine h.store rfl (fun hsome => ?_) fun name' b' hb => ?_
    · rwa [Table.lookup_erase_eq, if_neg (Ne.symm hok)]
    · rw [Table.lookup_erase_eq] at hb
      split_ifs at hb
      exact h.stored name' b' hb

theorem bindingInv_preserves (codec : Codec) (sa : String) :
    (system codec).Preserves (contract codec) (fun _ _ => BindingUndisturbed sa)
      (BindingInv sa) := by
  refine preserves_of_effects (fun d h => h.update nofun) ?_ fun _ he hok h => h.env he hok
  intro w w' v v' d r a he hg _ h
  exact h.effect he hg

/-- With the binding of a call in place, the accounts of that name are authorised in one
namespace only. -/
theorem BindingInv.authorised_iff (h : BindingInv sa w v) {c : Call} (hc : c.saName = sa)
    (hb : w.bindings.lookup sa = some c.clusterRoleBinding) (ns : String) :
    Authorised w ⟨ns, sa⟩ ↔ ns = c.ns := by
  constructor
  · rintro ⟨name, b, hs, -, -, hmem⟩
    have hown := h.stored name b hs
    unfold OwnBinding at hown
    split_ifs at hown with hname
    · subst hname
      obtain rfl := Option.some.inj (hb.symm.trans hs)
      exact congrArg Subject.ns (List.mem_singleton.mp hmem)
    · exact absurd rfl (hown _ hmem)
  · rintro rfl
    exact ⟨sa, _, hb, rfl, rfl, by simp [Call.clusterRoleBinding, hc]⟩

/-- A binding stays as it was created. -/
theorem binding_preserves (codec : Codec) (sa : String) (b : ClusterRoleBinding) :
    (system codec).Preserves (contract codec) (fun _ _ => BindingUndisturbed sa)
      fun w _ => w.bindings.lookup sa = some b := by
  refine preserves_of_effects (fun _ h => h) ?_ ?_
  · intro w w' v v' d r a he hg _ h
    cases he with
    | @newBinding name b' bound habsent =>
      rw [Table.lookup_insert_eq, if_neg]
      · exact h
      · rintro rfl
        exact nomatch habsent.symm.trans h
    | _ => exact h
  · intro w w' v e he hok h
    cases he with
    | putBinding => rwa [Table.lookup_insert_eq, if_neg (Ne.symm hok.1)]
    | eraseBinding => rwa [Table.lookup_erase_eq, if_neg (Ne.symm hok)]
    | _ => exact h

/-- In every run in which only the calls bind the accounts of a name, once a call has returned a
kubeconfig, the service accounts of its name are authorised in exactly one namespace, for good,
whatever namespaces calls of that name are for. -/
theorem authorised_in_one_namespace (codec : Codec) (c : Call) (s : CredentialState)
    (hs : Starts s)
    (hstart : ∀ name b, s.world.bindings.lookup name = some b →
      name ≠ c.saName ∧ ∀ subject ∈ b.subjects, subject.name ≠ c.saName)
    (acts acts' : List CredentialAction)
    (hok : (system codec).Admissible (fun _ _ => BindingUndisturbed c.saName) s acts)
    (hok' : (system codec).Admissible (fun _ _ => BindingUndisturbed c.saName)
      ((system codec).run s acts) acts') (text : String)
    (htext : (c, text) ∈ ((system codec).run s acts).world.delivered) :
    ∃ ns₀, ∀ ns,
      (Authorised ((system codec).run s acts).world ⟨ns, c.saName⟩ ↔ ns = ns₀) ∧
      (Authorised ((system codec).run ((system codec).run s acts) acts').world ⟨ns, c.saName⟩ ↔
        ns = ns₀) := by
  have hinv : BindingInv c.saName s.world s.view := by
    refine ⟨fun name b hb => ?_, fun d _ => ?_, fun c' text' => ?_⟩
    · rw [OwnBinding, if_neg (hstart name b hb).1]
      exact (hstart name b hb).2
    · rw [hs.unseen d]
      exact nofun
    · rw [hs.undelivered]
      exact nofun
  obtain ⟨h, hconf⟩ := (bindingInv_preserves codec c.saName).run (keeps_contract codec)
    hs.conforms hinv hok
  obtain ⟨b, hb⟩ := Option.isSome_iff_exists.mp (h.delivered c text htext rfl)
  have hown := h.stored c.saName b hb
  rw [OwnBinding, if_pos rfl] at hown
  obtain ⟨c₀, hc₀, rfl⟩ := hown
  obtain ⟨h', -⟩ := (bindingInv_preserves codec c.saName).run (keeps_contract codec) hconf h hok'
  obtain ⟨hb', -⟩ := (binding_preserves codec c.saName _).run (keeps_contract codec) hconf hb hok'
  exact ⟨c₀.ns, fun ns => ⟨h.authorised_iff hc₀ hb ns, h'.authorised_iff hc₀ hb' ns⟩⟩

end Binding

open Sample in
/-- Both calls return a kubeconfig, and only the account in `ns-a` is authorised. -/
theorem authorised_in_one_namespace_sample :
    let t := (system codec).run empty (twoCalls edge "token-a" ++ twoCalls edgeB "token-b")
    (edgeB.toCall, "token-b") ∈ t.world.delivered ∧ Authorised t.world edge.account ∧
      ¬ Authorised t.world edgeB.account := by
  intro t
  have htext : (edgeB.toCall, "token-b") ∈ t.world.delivered := by decide +kernel
  have hbinding : t.world.bindings.lookup "edge" = some edge.toCall.clusterRoleBinding := by
    decide +kernel
  have hauthorised : Authorised t.world edge.account :=
    ⟨"edge", _, hbinding, rfl, rfl, List.mem_singleton_self _⟩
  obtain ⟨ns₀, hns⟩ := authorised_in_one_namespace codec edgeB.toCall empty starts_empty nofun
    (twoCalls edge "token-a" ++ twoCalls edgeB "token-b") [] (by decide +kernel) trivial _ htext
  obtain rfl : edge.ns = ns₀ := (hns edge.ns).1.mp hauthorised
  exact ⟨htext, hauthorised, fun hb => absurd ((hns edgeB.ns).1.mp hb) (by decide)⟩

end Caphv.Credentials
