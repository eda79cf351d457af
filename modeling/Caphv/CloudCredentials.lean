import Mathlib.Data.List.Infix
import Mathlib.Data.List.TakeWhile
import Caphv.ControllerRuntime
import Caphv.Interleaving

namespace Caphv.Credentials

def digits (l : List Char) : Option (List Char) :=
  if l.takeWhile Char.isDigit = [] then none else some (l.dropWhile Char.isDigit)

def dot : List Char → Option (List Char)
  | '.' :: l => some l
  | _ => none

def quadAt (l : List Char) : Bool :=
  (do
    let l ← digits l
    let l ← dot l
    let l ← digits l
    let l ← dot l
    let l ← digits l
    let l ← dot l
    digits l).isSome

/-- `MatchString` of the expression, which is not anchored. -/
def matchesQuad (s : String) : Bool := s.toList.tails.any quadAt

/-- Four runs of digits with dots between them, somewhere in the list. -/
def HasQuad (l : List Char) : Prop :=
  ∃ pre a b c d post, (∀ run ∈ [a, b, c, d], run ≠ [] ∧ ∀ x ∈ run, x.isDigit = true) ∧
    l = pre ++ (a ++ '.' :: (b ++ '.' :: (c ++ '.' :: (d ++ post))))

def joinHostPort (host port : String) : String :=
  if host.toList.contains ':' then "[" ++ host ++ "]:" ++ port else host ++ ":" ++ port

/-- The server of the kubeconfig: the annotation of the ingress Service, if it holds something
like an address, or the URL that was given. -/
def serverURL (given vipIP : String) : String :=
  if matchesQuad vipIP then "https://" ++ joinHostPort vipIP "6443" else given

section Quad

variable {l r : List Char}

theorem digits_eq_some (h : digits l = some r) :
    ∃ a, (a ≠ [] ∧ ∀ x ∈ a, x.isDigit = true) ∧ l = a ++ r := by
  unfold digits at h
  split_ifs at h with hne
  refine ⟨l.takeWhile Char.isDigit, ⟨hne, fun x hx => List.mem_takeWhile_imp hx⟩, ?_⟩
  rw [← Option.some.inj h, List.takeWhile_append_dropWhile]

theorem dot_eq_some (h : dot l = some r) : l = '.' :: r := by
  unfold dot at h
  split at h
  · rw [Option.some.inj h]
  · cases h

/-- A run is taken whole. -/
theorem digits_append {a : List Char} (ha : a ≠ [] ∧ ∀ x ∈ a, x.isDigit = true) :
    digits (a ++ r) = some (r.dropWhile Char.isDigit) := by
  unfold digits
  rw [List.takeWhile_append_of_pos ha.2, List.dropWhile_append_of_pos ha.2, if_neg]
  exact fun hnil => ha.1 (List.append_eq_nil_iff.mp hnil).1

theorem quadAt_iff : quadAt l = true ↔ ∃ a b c d post,
    (∀ run ∈ [a, b, c, d], run ≠ [] ∧ ∀ x ∈ run, x.isDigit = true) ∧
      l = a ++ '.' :: (b ++ '.' :: (c ++ '.' :: (d ++ post))) := by
  constructor
  · intro h
    obtain ⟨post, h⟩ := Option.isSome_iff_exists.mp h
    simp only [Option.bind_eq_bind, Option.bind_eq_some_iff] at h
    obtain ⟨l₁, h₁, l₂, h₂, l₃, h₃, l₄, h₄, l₅, h₅, l₆, h₆, h₇⟩ := h
    obtain ⟨a, ha, rfl⟩ := digits_eq_some h₁
    obtain rfl := dot_eq_some h₂
    obtain ⟨b, hb, rfl⟩ := digits_eq_some h₃
    obtain rfl := dot_eq_some h₄
    obtain ⟨c, hc, rfl⟩ := digits_eq_some h₅
    obtain rfl := dot_eq_some h₆
    obtain ⟨d, hd, rfl⟩ := digits_eq_some h₇
    exact ⟨a, b, c, d, post, by simpa using ⟨ha, hb, hc, hd⟩, rfl⟩
  · rintro ⟨a, b, c, d, post, hruns, rfl⟩
    simp only [List.mem_cons, List.not_mem_nil, or_false, forall_eq_or_imp, forall_eq] at hruns
    obtain ⟨ha, hb, hc, hd⟩ := hruns
    have hstop : ∀ r, ('.' :: r).dropWhile Char.isDigit = '.' :: r := fun _ => rfl
    simp only [quadAt, digits_append ha, digits_append hb, digits_append hc, digits_append hd,
      hstop, dot, Option.bind_eq_bind, Option.bind_some, Option.isSome_some]

/-- The matcher finds what the expression describes. -/
theorem matchesQuad_iff (s : String) : matchesQuad s = true ↔ HasQuad s.toList := by
  unfold matchesQuad HasQuad
  rw [List.any_eq_true]
  constructor
  · rintro ⟨t, ht, hquad⟩
    obtain ⟨pre, hpre⟩ := (List.mem_tails _ _).mp ht
    obtain ⟨a, b, c, d, post, hruns, rfl⟩ := quadAt_iff.mp hquad
    exact ⟨pre, a, b, c, d, post, hruns, hpre.symm⟩
  · rintro ⟨pre, a, b, c, d, post, hruns, hs⟩
    refine ⟨_, (List.mem_tails _ _).mpr ⟨pre, hs.symm⟩, ?_⟩
    exact quadAt_iff.mpr ⟨a, b, c, d, post, hruns, rfl⟩

/-- The server is at the address that the annotation holds, or is the given one. -/
theorem serverURL_cases (given vipIP : String) :
    HasQuad vipIP.toList ∧ serverURL given vipIP = "https://" ++ joinHostPort vipIP "6443" ∨
      ¬ HasQuad vipIP.toList ∧ serverURL given vipIP = given := by
  rw [← matchesQuad_iff]
  unfold serverURL
  split_ifs with h
  · exact Or.inl ⟨h, rfl⟩
  · exact Or.inr ⟨h, rfl⟩

end Quad

structure Subject where
  kind : String
  name : String
  ns : String
  deriving DecidableEq

structure ClusterRoleBinding where
  subjects : List Subject
  roleKind : String
  roleName : String
  deriving DecidableEq

structure OwnerReference where
  apiVersion : String
  kind : String
  name : String
  uid : String
  deriving DecidableEq

structure Secret where
  type : String
  annotations : Table String String
  owners : List OwnerReference
  data : Table String String
  deriving DecidableEq

structure ServiceAccount where
  name : String
  uid : String
  deriving DecidableEq

/-- The arguments of `GetCloudConfigB64`. -/
structure Call where
  saName : String
  ns : String
  server : String
  deriving DecidableEq

namespace Call

variable (c : Call)

def account : NamespacedName := ⟨c.ns, c.saName⟩

def secretName : NamespacedName := ⟨c.ns, c.saName ++ "-token"⟩

def cloudProviderRoleName : String := "harvesterhci.io:cloudprovider"

def clusterRoleBinding : ClusterRoleBinding where
  subjects := [⟨"ServiceAccount", c.saName, c.ns⟩]
  roleKind := "ClusterRole"
  roleName := cloudProviderRoleName

end Call

def tokenType : String := "kubernetes.io/service-account-token"

def nameKey : String := "kubernetes.io/service-account.name"

def uidKey : String := "kubernetes.io/service-account.uid"

/-- The Secret that asks Harvester for a token of the account. -/
def tokenSecret (sa : ServiceAccount) : Secret where
  type := tokenType
  annotations := ((∅ : Table String String).insert nameKey sa.name).insert uidKey sa.uid
  owners := [⟨"v1", "ServiceAccount", sa.name, sa.uid⟩]
  data := ∅

structure ClusterEntry where
  server : String
  certificateAuthorityData : String

structure ContextEntry where
  cluster : String
  authInfo : String
  ns : String

structure Config where
  clusters : Table String ClusterEntry
  authInfos : Table String String
  contexts : Table String ContextEntry
  currentContext : String

/-- Code outside the repository: `runtime.Encode` with `yaml.JSONToYAML`, and base64. -/
structure Codec where
  encode : Config → Except String String
  encodeBase64 : String → String

def kubeconfigObject (token ca ns server : String) : Config where
  clusters := (∅ : Table String ClusterEntry).insert "default" ⟨server, ca⟩
  authInfos := (∅ : Table String String).insert "default" token
  contexts := (∅ : Table String ContextEntry).insert "context" ⟨"default", "default", ns⟩
  currentContext := "context"

def buildKubeconfigFromSecret (codec : Codec) (secret : Secret) (ns server : String) :
    Except String String :=
  match secret.data.lookup "token" with
  | none => .error "token not found in secret"
  | some token =>
    match secret.data.lookup "ca.crt" with
    | none => .error "ca.crt not found in secret"
    | some ca => codec.encode (kubeconfigObject token ca ns server)

/-- The calls that `GetCloudConfigB64` makes to Harvester. `deliver` is not one of them: it marks
the end of a call that returned a kubeconfig. -/
inductive Req where
  | getServiceAccount (n : NamespacedName)
  | createServiceAccount (n : NamespacedName)
  | getClusterRoleBinding (name : String)
  | createClusterRoleBinding (name : String) (binding : ClusterRoleBinding)
  | createSecret (n : NamespacedName) (secret : Secret)
  | getSecret (n : NamespacedName)
  | getIngressExpose
  | deliver (kubeconfig : String)
  deriving DecidableEq

/-- The response; of the ingress Service it is the annotation with the address, if it has one. -/
def Resp : Req → Type
  | .getServiceAccount _ => Except ApiError ServiceAccount
  | .createServiceAccount _ => Except ApiError Unit
  | .getClusterRoleBinding _ => Except ApiError Unit
  | .createClusterRoleBinding _ _ => Except ApiError Unit
  | .createSecret _ _ => Except ApiError Unit
  | .getSecret _ => Except ApiError Secret
  | .getIngressExpose => Except ApiError (Option String)
  | .deliver _ => Unit

def Answer : Req → Type
  | .createServiceAccount _ => Fault × String
  | .getIngressExpose => Resp .getIngressExpose
  | .deliver _ => Unit
  | _ => Fault

abbrev Routine (α : Type) := Prog Req Resp α

abbrev call (r : Req) : Routine (Resp r) := Prog.request r

def createServiceAccountIfNotExists (c : Call) : Routine (Except String Unit) := do
  let got ← call (.getServiceAccount c.account)
  match got with
  | .ok _ => pure (.ok ())
  | .error e =>
    if ¬ e.isNotFound then pure (.error e.message)
    else do
      let created ← call (.createServiceAccount c.account)
      match created with
      | .error e => pure (.error e.message)
      | .ok () => pure (.ok ())

/-- `createClusterRoleBindingIfNotExists`. The binding has the name of the account and no
namespace. -/
def createClusterRoleBindingIfNotExists (c : Call) : Routine (Except String Unit) := do
  let got ← call (.getClusterRoleBinding c.saName)
  match got with
  | .ok _ => pure (.ok ())
  | .error e =>
    if ¬ e.isNotFound then pure (.error e.message)
    else do
      let created ← call (.createClusterRoleBinding c.saName c.clusterRoleBinding)
      match created with
      | .error e => pure (.error e.message)
      | .ok () => pure (.ok ())

/-- The end of `getKubeConfig`, after the pause of one second, in which anything may happen. -/
def kubeConfigFrom (codec : Codec) (c : Call) (secretName : NamespacedName) :
    Routine (Except String String) := do
  let got ← call (.getSecret secretName)
  match got with
  | .error e => pure (.error e.message)
  | .ok secret => do
    let vipSVC ← call .getIngressExpose
    match vipSVC with
    | .error e => pure (.error ("unable to compute the Harvester Endpoint: problem in getting " ++
        "the ingress-expose service: " ++ e.message))
    | .ok vip =>
      match buildKubeconfigFromSecret codec secret c.ns
          (serverURL c.server (vip.getD "")) with
      | .error _ => pure (.error ("unable to build a kubeconfig from secret " ++ c.saName))
      | .ok kubeconfig => pure (.ok (codec.encodeBase64 kubeconfig))

def getKubeConfig (codec : Codec) (c : Call) : Routine (Except String String) := do
  let got ← call (.getServiceAccount c.account)
  match got with
  | .error e => pure (.error e.message)
  | .ok sa => do
    let secretName := ⟨c.ns, sa.name ++ "-token"⟩
    let created ← call (.createSecret secretName (tokenSecret sa))
    match created with
    | .error e =>
      if ¬ e.isAlreadyExists then pure (.error e.message)
      else kubeConfigFrom codec c secretName
    | .ok () => kubeConfigFrom codec c secretName

def getCloudConfigB64 (codec : Codec) (c : Call) : Routine (Except String String) := do
  let account ← createServiceAccountIfNotExists c
  match account with
  | .error e => pure (.error e)
  | .ok () => do
    let binding ← createClusterRoleBindingIfNotExists c
    match binding with
    | .error e => pure (.error e)
    | .ok () => getKubeConfig codec c

structure Issue where
  token : String
  account : NamespacedName
  uid : String
  deriving DecidableEq

/-- The objects in Harvester. `issued` and `delivered` are for the proofs only: the tokens that
Harvester has issued, and the kubeconfigs that calls have returned. -/
structure World where
  accounts : Table NamespacedName String
  bindings : Table String ClusterRoleBinding
  secrets : Table NamespacedName Secret
  issued : List Issue
  delivered : List (Call × String)

namespace World

variable (w : World)

def emptyName : ApiError := .other "resource name may not be empty"

def getServiceAccount (n : NamespacedName) : Except ApiError ServiceAccount :=
  if n.name = "" then .error emptyName
  else found ((w.accounts.lookup n).map fun uid => ⟨n.name, uid⟩)

def createServiceAccount (n : NamespacedName) (uid : String) : Except ApiError (Unit × World) :=
  if (w.accounts.lookup n).isSome then .error .alreadyExists
  else .ok ((), { w with accounts := w.accounts.insert n uid })

def getClusterRoleBinding (name : String) : Except ApiError Unit :=
  if name = "" then .error emptyName else found ((w.bindings.lookup name).map fun _ => ())

def createClusterRoleBinding (name : String) (b : ClusterRoleBinding) :
    Except ApiError (Unit × World) :=
  if (w.bindings.lookup name).isSome then .error .alreadyExists
  else .ok ((), { w with bindings := w.bindings.insert name b })

def createSecret (n : NamespacedName) (s : Secret) : Except ApiError (Unit × World) :=
  if (w.secrets.lookup n).isSome then .error .alreadyExists
  else .ok ((), { w with secrets := w.secrets.insert n s })

end World

def exec (c : Call) : (r : Req) → Answer r → World → Resp r × World
  | .getServiceAccount n, f, w => (f.reply (w.getServiceAccount n), w)
  | .createServiceAccount n, a, w => a.1.write w (w.createServiceAccount n a.2)
  | .getClusterRoleBinding name, f, w => (f.reply (w.getClusterRoleBinding name), w)
  | .createClusterRoleBinding name b, f, w => f.write w (w.createClusterRoleBinding name b)
  | .createSecret n s, f, w => f.write w (w.createSecret n s)
  | .getSecret n, f, w => (f.reply (found (w.secrets.lookup n)), w)
  | .getIngressExpose, x, w => (x, w)
  | .deliver text, _, w => ((), { w with delivered := (c, text) :: w.delivered })

/-- Every request is answered; a new account would get the UID `uid`, and `vip` is the annotation
of the ingress Service. -/
def answered (uid : String) (vip : Option String) : (r : Req) → Answer r
  | .createServiceAccount _ => (.none, uid)
  | .getIngressExpose => (.ok vip : Except ApiError (Option String))
  | .deliver _ => ()
  | .getServiceAccount _ => Fault.none
  | .getClusterRoleBinding _ => Fault.none
  | .createClusterRoleBinding _ _ => Fault.none
  | .createSecret _ _ => Fault.none
  | .getSecret _ => Fault.none

/-- Moves of the token controller of Harvester (`populate`, `collect`) and of users. -/
inductive Env where
  | populate (n : NamespacedName) (token ca : String)
  | collect (n : NamespacedName)
  | putSecret (n : NamespacedName) (s : Secret)
  | createAccount (n : NamespacedName) (uid : String)
  | eraseAccount (n : NamespacedName)
  | putBinding (name : String) (b : ClusterRoleBinding)
  | eraseBinding (name : String)
  deriving DecidableEq

def Secret.account (s : Secret) (ns : String) : Option NamespacedName :=
  (s.annotations.lookup nameKey).map fun name => ⟨ns, name⟩

/-- The Secret asks for a token of an account that exists, with that UID. -/
def Live (w : World) (n : NamespacedName) (s : Secret) : Prop :=
  s.type = tokenType ∧ ∃ a ∈ s.account n.ns, ∃ uid ∈ s.annotations.lookup uidKey,
    w.accounts.lookup a = some uid

instance (w : World) (n : NamespacedName) (s : Secret) : Decidable (Live w n s) :=
  inferInstanceAs (Decidable (_ ∧ ∃ a ∈ _, ∃ uid ∈ _, _))

def Secret.withToken (s : Secret) (token ca : String) : Secret :=
  { s with data := (s.data.insert "token" token).insert "ca.crt" ca }

/-- Harvester fills in the Secret of a live account and takes away one that asks for a token of
an account that is gone. -/
def World.env (w : World) : Env → World
  | .populate n token ca =>
    match w.secrets.lookup n with
    | none => w
    | some s =>
      if Live w n s then { w with
        secrets := w.secrets.insert n (s.withToken token ca)
        issued := ((s.account n.ns).toList.flatMap fun a =>
          (s.annotations.lookup uidKey).toList.map fun uid => ⟨token, a, uid⟩) ++ w.issued }
      else w
  | .collect n =>
    match w.secrets.lookup n with
    | none => w
    | some s => if Live w n s then w else { w with secrets := w.secrets.erase n }
  | .putSecret n s => { w with secrets := w.secrets.insert n s }
  | .createAccount n uid =>
    if (w.accounts.lookup n).isSome then w else { w with accounts := w.accounts.insert n uid }
  | .eraseAccount n => { w with accounts := w.accounts.erase n }
  | .putBinding name b => { w with bindings := w.bindings.insert name b }
  | .eraseBinding name => { w with bindings := w.bindings.erase name }

structure View where
  account : Option ServiceAccount
  /-- The binding was found, or created. -/
  bound : Bool
  secret : Option Secret
  /-- The address that the ingress Service is annotated with, empty without an annotation. -/
  vipIP : Option String

def View.fresh : View := ⟨none, false, none, none⟩

def View.next (v : View) : (r : Req) → Resp r → View
  | .getServiceAccount _, .ok sa => { v with account := some sa }
  | .getClusterRoleBinding _, .ok _ => { v with bound := true }
  | .createClusterRoleBinding _ _, .ok _ => { v with bound := true }
  | .getSecret _, .ok s => { v with secret := some s }
  | .getIngressExpose, .ok vip => { v with vipIP := some (vip.getD "") }
  | _, _ => v

structure Caller extends Call where
  cluster : ObjectKey
  deriving DecidableEq

/-- Any number of calls at a time, from clusters that may share a name and a namespace. -/
def system (codec : Codec) : Controller Caller Req Resp Answer World View Env where
  program c := do
    let out ← getCloudConfigB64 codec c.toCall
    match out with
    | .error _ => pure ()
    | .ok kubeconfig => call (.deliver kubeconfig)
  exec c := exec c.toCall
  next := View.next
  fresh := .fresh
  env e w := w.env e

abbrev CredentialState := State Caller Req Resp World View

abbrev CredentialAction := Action Caller Req Answer Env

abbrev CredentialEvent := Event Caller Req Answer Env

end Caphv.Credentials
