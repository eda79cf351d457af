import Mathlib.Data.List.Basic
import Caphv.ClusterController

namespace Caphv

/-- `corev1.Secret`, with everything that is neither written nor compared in one field. -/
structure ManifestSecret (ρ : Type) where
  name : String
  ns : String
  type : String
  data : Option (Table String String)
  rest : ρ
  deriving DecidableEq

/-- What the YAML and JSON libraries do with a manifest of documents `δ`. They round-trip: the
documents of a manifest are read back as they were written, and a Secret as it was marshalled. -/
structure ManifestCodec (δ ρ : Type) where
  getSerializedObjects : String → Except String (List δ)
  /-- Kind and API version of a document that is an object. -/
  typeMeta : δ → Option (String × String)
  fromUnstructured : δ → Option (ManifestSecret ρ)
  marshal : ManifestSecret ρ → Except String δ
  jsonToYAML : δ → Except String String
  read_back : ∀ docs texts, docs.mapM jsonToYAML = .ok texts →
    getSerializedObjects ("\n---\n".intercalate texts) = .ok docs
  typeMeta_marshal : ∀ s doc, marshal s = .ok doc → typeMeta doc = some ("Secret", "v1")
  fromUnstructured_marshal : ∀ s doc, marshal s = .ok doc → fromUnstructured doc = some s

namespace ManifestCodec

variable {δ ρ : Type} (c : ManifestCodec δ ρ)

def secretOf (doc : δ) : Option (ManifestSecret ρ) :=
  match c.typeMeta doc with
  | none => none
  | some (kind, apiVersion) =>
    if kind ≠ "Secret" ∨ apiVersion ≠ "v1" then none else c.fromUnstructured doc

/-- `GetSecrets`: the Secrets, and the position of each among all objects. -/
def getSecrets (objects : List δ) : List (ManifestSecret ρ) × List ℕ :=
  (objects.zipIdx.filterMap fun e => (c.secretOf e.1).map fun secret => (secret, e.2)).unzip

def serializeObjectsToYAML (objects : List δ) : Except String String := do
  let yamlStrings ← objects.mapM c.jsonToYAML
  pure ("\n---\n".intercalate yamlStrings)

end ManifestCodec

namespace ManifestSecret

variable {ρ : Type}

def isNamed (name ns : String) (secret : ManifestSecret ρ) : Bool :=
  secret.name = name ∧ secret.ns = ns

/-- `FindSecretByName`: the first match, and its position in the list. -/
def findSecretByName (secrets : List (ManifestSecret ρ)) (name ns : String) :
    Option (ManifestSecret ρ × ℕ) :=
  secrets.zipIdx.find? fun e => e.1.isNamed name ns

def setSecretData (secret : ManifestSecret ρ) (key value : String) : ManifestSecret ρ :=
  { secret with data := some ((Table.ofNil secret.data).insert key value) }

def new [Inhabited ρ] (name ns : String) : ManifestSecret ρ := ⟨name, ns, "Opaque", none, default⟩

end ManifestSecret

namespace ManifestCodec

open ManifestSecret

variable {δ ρ : Type} [Inhabited ρ] (c : ManifestCodec δ ρ)

def modifyObjects (objects : List δ) (secretName secretNamespace key value : String) :
    Except String (List δ) := do
  let (secret, index) :=
    match findSecretByName (c.getSecrets objects).1 secretName secretNamespace with
    | some found => found
    | none => (ManifestSecret.new secretName secretNamespace, objects.length)
  let secretBytes ← c.marshal (setSecretData secret key value)
  let objects := if index < objects.length then objects.set index secretBytes else objects
  pure (if index = objects.length then objects ++ [secretBytes] else objects)

def modifyYAMlString (yamlString secretName secretNamespace key value : String) :
    Except String String := do
  let objects ← c.getSerializedObjects yamlString
  let objects ← c.modifyObjects objects secretName secretNamespace key value
  c.serializeObjectsToYAML objects

def holds (name ns : String) (doc : δ) : Bool := (c.secretOf doc).any (isNamed name ns)

/-- The manifest has the Secret, with the data key. -/
def Contains (manifest name ns key : String) : Prop :=
  ∃ docs, c.getSerializedObjects manifest = .ok docs ∧ ∃ doc ∈ docs, ∃ secret,
    c.secretOf doc = some secret ∧ secret.isNamed name ns = true ∧
      ((Table.ofNil secret.data).lookup key).isSome = true

/-- `docs'` is `docs` with the one Secret modified, or with a new one at its end. -/
def Modifies (name ns key value : String) (docs docs' : List δ) : Prop :=
  match docs.findIdx? (c.holds name ns) with
  | some i => ∃ doc ∈ docs[i]?, ∃ secret, c.secretOf doc = some secret ∧
      ∃ doc', c.secretOf doc' = some (setSecretData secret key value) ∧ docs' = docs.set i doc'
  | none => ∃ doc', c.secretOf doc' = some (setSecretData (ManifestSecret.new name ns) key value) ∧
      docs' = docs ++ [doc']

end ManifestCodec

section Find

open ManifestSecret

variable {δ ρ : Type} {c : ManifestCodec δ ρ} {name ns key value : String}

theorem secretOf_marshal {secret : ManifestSecret ρ} {doc : δ}
    (h : c.marshal secret = .ok doc) : c.secretOf doc = some secret := by
  simp [ManifestCodec.secretOf, c.typeMeta_marshal _ _ h, c.fromUnstructured_marshal _ _ h]

theorem getSecrets_fst (docs : List δ) : (c.getSecrets docs).1 = docs.filterMap c.secretOf := by
  unfold ManifestCodec.getSecrets
  rw [List.unzip_fst, List.map_filterMap]
  conv_rhs => rw [← List.zipIdx_map_fst 0 docs, List.filterMap_map]
  congr
  funext e
  rw [Option.map_map]
  exact Option.map_id'

/-- The first match comes from a document of which none before it holds the Secret, and is counted
among the Secrets only. -/
theorem findSecretByName_some {docs : List δ} {n k : ℕ} {secret : ManifestSecret ρ}
    (h : ((docs.filterMap c.secretOf).zipIdx n).find? (fun e => e.1.isNamed name ns) =
      some (secret, k)) :
    ∃ before doc after, docs = before ++ doc :: after ∧
      (∀ d ∈ before, c.holds name ns d = false) ∧ c.secretOf doc = some secret ∧
      secret.isNamed name ns = true ∧ k = n + (before.filterMap c.secretOf).length := by
  -- Only Secrets are counted, so the index falls behind with every other object.
  induction docs generalizing n with
  | nil => cases h
  | cons doc docs ih =>
    cases hdoc : c.secretOf doc with
    | none =>
      rw [List.filterMap_cons_none hdoc] at h
      obtain ⟨before, doc', after, rfl, hbefore, hrest⟩ := ih h
      refine ⟨doc :: before, doc', after, rfl, ?_, ?_⟩
      · exact List.forall_mem_cons.mpr ⟨by simp [ManifestCodec.holds, hdoc], hbefore⟩
      · rwa [List.filterMap_cons_none hdoc]
    | some first =>
      rw [List.filterMap_cons_some hdoc, List.zipIdx_cons, List.find?_cons] at h
      cases hnamed : first.isNamed name ns with
      | true =>
        simp only [hnamed, Option.some.injEq, Prod.mk.injEq] at h
        obtain ⟨rfl, rfl⟩ := h
        exact ⟨[], doc, docs, rfl, nofun, hdoc, hnamed, rfl⟩
      | false =>
        simp only [hnamed] at h
        obtain ⟨before, doc', after, rfl, hbefore, hsecret, hname, hk⟩ := ih h
        refine ⟨doc :: before, doc', after, rfl, ?_, hsecret, hname, ?_⟩
        · exact List.forall_mem_cons.mpr ⟨by simp [ManifestCodec.holds, hdoc, hnamed], hbefore⟩
        · rw [List.filterMap_cons_some hdoc, List.length_cons, hk]
          omega

/-- The position that `ModifyYAMlString` gets for the Secret. -/
theorem findSecretByName_getSecrets {docs : List δ} {k : ℕ} {secret : ManifestSecret ρ}
    (h : findSecretByName (c.getSecrets docs).1 name ns = some (secret, k)) :
    ∃ before doc after, docs = before ++ doc :: after ∧
      (∀ d ∈ before, c.holds name ns d = false) ∧ c.secretOf doc = some secret ∧
      secret.isNamed name ns = true ∧ k = (before.filterMap c.secretOf).length := by
  unfold findSecretByName at h
  rw [getSecrets_fst] at h
  obtain ⟨before, doc, after, hdocs, hbefore, hsecret, hnamed, hk⟩ := findSecretByName_some h
  exact ⟨before, doc, after, hdocs, hbefore, hsecret, hnamed, hk.trans (Nat.zero_add _)⟩

theorem findSecretByName_lt {docs : List δ} {k : ℕ} {secret : ManifestSecret ρ}
    (h : findSecretByName (c.getSecrets docs).1 name ns = some (secret, k)) : k < docs.length := by
  obtain ⟨before, doc, after, rfl, -, -, -, rfl⟩ := findSecretByName_getSecrets h
  have hle := List.length_filterMap_le c.secretOf before
  rw [List.length_append, List.length_cons]
  omega

theorem findSecretByName_none {docs : List δ} {n : ℕ}
    (h : ((docs.filterMap c.secretOf).zipIdx n).find? (fun e => e.1.isNamed name ns) = none) :
    ∀ doc ∈ docs, c.holds name ns doc = false := by
  intro doc hdoc
  unfold ManifestCodec.holds
  cases hsecret : c.secretOf doc with
  | none => rfl
  | some secret =>
    have hmem : secret ∈ docs.filterMap c.secretOf := List.mem_filterMap.mpr ⟨doc, hdoc, hsecret⟩
    rw [← List.zipIdx_map_fst n (docs.filterMap c.secretOf)] at hmem
    obtain ⟨e, he, rfl⟩ := List.mem_map.mp hmem
    simpa using List.find?_eq_none.mp h e he

theorem findIdx?_holds {before after : List δ} {doc : δ}
    (hbefore : ∀ d ∈ before, c.holds name ns d = false) (hdoc : c.holds name ns doc = true) :
    (before ++ doc :: after).findIdx? (c.holds name ns) = some before.length := by
  rw [List.findIdx?_append, List.findIdx?_eq_none_iff.mpr hbefore, List.findIdx?_cons, if_pos hdoc]
  simp

end Find

section Modify

open ManifestSecret

variable {δ ρ : Type} [Inhabited ρ] {c : ManifestCodec δ ρ} {name ns key value : String}

theorem Except.bind_eq_ok {ε α β : Type} {x : Except ε α} {f : α → Except ε β} {b : β} :
    x >>= f = .ok b ↔ ∃ a, x = .ok a ∧ f a = .ok b := by
  cases x with
  | ok a => exact ⟨fun h => ⟨a, rfl, h⟩, fun ⟨_, ha, hf⟩ => (Except.ok.inj ha) ▸ hf⟩
  | error e => exact ⟨nofun, fun ⟨_, ha, _⟩ => nomatch ha⟩

/-- Without such a Secret a new one comes at the end. -/
theorem modifyObjects_of_none {docs docs' : List δ}
    (hfind : findSecretByName (c.getSecrets docs).1 name ns = none)
    (h : c.modifyObjects docs name ns key value = .ok docs') :
    ∃ doc', c.secretOf doc' = some (setSecretData (.new name ns) key value) ∧
      docs' = docs ++ [doc'] := by
  unfold ManifestCodec.modifyObjects at h
  rw [hfind] at h
  obtain ⟨doc', hmarshal, h⟩ := Except.bind_eq_ok.mp h
  refine ⟨doc', secretOf_marshal hmarshal, ?_⟩
  simpa using (Except.ok.inj h).symm

/-- The object at the position that the Secret has among the Secrets is replaced. -/
theorem modifyObjects_of_some {docs docs' : List δ} {secret : ManifestSecret ρ} {k : ℕ}
    (hfind : findSecretByName (c.getSecrets docs).1 name ns = some (secret, k))
    (h : c.modifyObjects docs name ns key value = .ok docs') :
    ∃ doc', c.secretOf doc' = some (setSecretData secret key value) ∧ docs' = docs.set k doc' := by
  unfold ManifestCodec.modifyObjects at h
  rw [hfind] at h
  obtain ⟨doc', hmarshal, h⟩ := Except.bind_eq_ok.mp h
  have hk := findSecretByName_lt hfind
  refine ⟨doc', secretOf_marshal hmarshal, ?_⟩
  simpa [hk, hk.ne] using (Except.ok.inj h).symm

/-- The objects come out as they should exactly if every object before the Secret is a Secret. -/
theorem modifies_iff {docs docs' : List δ}
    (h : c.modifyObjects docs name ns key value = .ok docs') :
    c.Modifies name ns key value docs docs' ↔
      ∀ i, docs.findIdx? (c.holds name ns) = some i →
        ∀ doc ∈ docs.take i, (c.secretOf doc).isSome = true := by
  cases hfind : findSecretByName (c.getSecrets docs).1 name ns with
  | none =>
    have hnone : docs.findIdx? (c.holds name ns) = none := by
      unfold findSecretByName at hfind
      rw [getSecrets_fst] at hfind
      exact List.findIdx?_eq_none_iff.mpr (findSecretByName_none hfind)
    unfold ManifestCodec.Modifies
    rw [hnone]
    exact iff_of_true (modifyObjects_of_none hfind h) nofun
  | some found =>
    obtain ⟨secret, k⟩ := found
    have hlt := findSecretByName_lt hfind
    obtain ⟨doc', hdoc', rfl⟩ := modifyObjects_of_some hfind h
    obtain ⟨before, doc, after, rfl, hbefore, hsecret, hnamed, hk⟩ :=
      findSecretByName_getSecrets hfind
    have hle : k ≤ before.length := hk ▸ List.length_filterMap_le _ _
    have hidx : (before ++ doc :: after).findIdx? (c.holds name ns) = some before.length :=
      findIdx?_holds hbefore (by simp [ManifestCodec.holds, hsecret, hnamed])
    have hall : k = before.length ↔ ∀ d ∈ before, (c.secretOf d).isSome = true := by
      rw [hk]
      exact List.filterMap_length_eq_length
    unfold ManifestCodec.Modifies
    rw [hidx]
    constructor
    · rintro ⟨-, -, -, -, d', -, heq⟩ i hi
      obtain rfl := Option.some.inj hi
      rw [List.take_left]
      refine hall.mp (hle.antisymm (not_lt.mp fun hbelow => ?_))
      -- The object that was replaced is the modified Secret, which no object before has been.
      have hmem : doc' ∈ before := by
        have hget := congrArg (fun l : List δ => l[k]?) heq
        simp only [List.getElem?_set_self hlt, List.getElem?_set_ne hbelow.ne',
          List.getElem?_append_left hbelow] at hget
        exact List.mem_of_getElem? hget.symm
      have hheld := hbefore doc' hmem
      rw [ManifestCodec.holds, hdoc'] at hheld
      exact absurd hnamed (by simpa [isNamed, setSecretData] using hheld)
    · intro hsecrets
      have hbefore' := hsecrets _ rfl
      rw [List.take_left] at hbefore'
      exact ⟨doc, by simp, secret, hsecret, doc', hdoc', by rw [hall.mpr hbefore']⟩

/-- Whichever object is overwritten, the result has the Secret with its data. -/
theorem contains_modifyYAMlString {yamlString result : String}
    (h : c.modifyYAMlString yamlString name ns key value = .ok result) :
    c.Contains result name ns key := by
  unfold ManifestCodec.modifyYAMlString at h
  obtain ⟨docs, -, h⟩ := Except.bind_eq_ok.mp h
  obtain ⟨docs', hmodify, h⟩ := Except.bind_eq_ok.mp h
  obtain ⟨texts, htexts, h⟩ := Except.bind_eq_ok.mp h
  cases h
  have hkey : ∀ secret : ManifestSecret ρ,
      ((Table.ofNil (secret.setSecretData key value).data).lookup key).isSome = true := by
    intro secret
    rw [setSecretData, Table.ofNil_some, Table.lookup_insert_eq, if_pos rfl]
    rfl
  refine ⟨docs', c.read_back docs' texts htexts, ?_⟩
  cases hfind : findSecretByName (c.getSecrets docs).1 name ns with
  | none =>
    obtain ⟨doc', hdoc', rfl⟩ := modifyObjects_of_none hfind hmodify
    refine ⟨doc', by simp, _, hdoc', ?_, hkey _⟩
    simp [isNamed, ManifestSecret.new, setSecretData]
  | some found =>
    obtain ⟨secret, k⟩ := found
    obtain ⟨-, -, -, -, -, -, hnamed, -⟩ := findSecretByName_getSecrets hfind
    obtain ⟨doc', hdoc', rfl⟩ := modifyObjects_of_some hfind hmodify
    exact ⟨doc', List.mem_set (findSecretByName_lt hfind) _, _, hdoc', hnamed, hkey _⟩

/-- `ModifyYAMlString` modifies exactly one Secret, in every manifest in which only Secrets stand
before it, and in no other that has it. -/
theorem modifyYAMlString_iff {yamlString result : String} {docs : List δ}
    (hdocs : c.getSerializedObjects yamlString = .ok docs)
    (h : c.modifyYAMlString yamlString name ns key value = .ok result) :
    (∃ docs', c.getSerializedObjects result = .ok docs' ∧
        c.Modifies name ns key value docs docs') ↔
      ∀ i, docs.findIdx? (c.holds name ns) = some i →
        ∀ doc ∈ docs.take i, (c.secretOf doc).isSome = true := by
  unfold ManifestCodec.modifyYAMlString at h
  obtain ⟨objects, hobjects, h⟩ := Except.bind_eq_ok.mp h
  obtain rfl := Except.ok.inj (hdocs.symm.trans hobjects)
  obtain ⟨docs', hmodify, h⟩ := Except.bind_eq_ok.mp h
  obtain ⟨texts, htexts, h⟩ := Except.bind_eq_ok.mp h
  cases h
  rw [c.read_back docs' texts htexts, ← modifies_iff hmodify]
  simp

end Modify

namespace ManifestSample

def credentials : ManifestSecret Unit := ⟨"creds", "kube-system", "Opaque", none, ()⟩

def filledIn : ManifestSecret Unit := credentials.setSecretData "cloud-config" "kubeconfig"

inductive Document where
  | configMap
  | secret (s : ManifestSecret Unit)
  deriving DecidableEq

def textOf : Document → Except String String
  | .configMap => .ok "c"
  | .secret s =>
    if s = credentials then .ok "s" else if s = filledIn then .ok "f" else .error "no text"

def documentOf : Char → Option Document
  | 'c' => some .configMap
  | 's' => some (.secret credentials)
  | 'f' => some (.secret filledIn)
  | _ => none

def read : List Char → Option (List Document)
  | [] => some []
  | [c] => (documentOf c).map fun doc => [doc]
  | c :: '\n' :: '-' :: '-' :: '-' :: '\n' :: rest => do
    let doc ← documentOf c
    let docs ← read rest
    pure (doc :: docs)
  | _ => none

theorem textOf_eq_ok {doc : Document} {text : String} (h : textOf doc = .ok text) :
    ∃ c, text.toList = [c] ∧ documentOf c = some doc := by
  cases doc with
  | configMap =>
    cases h
    exact ⟨'c', rfl, rfl⟩
  | secret s =>
    unfold textOf at h
    dsimp only at h
    split_ifs at h with hs hs'
    · cases h
      exact ⟨'s', rfl, hs ▸ rfl⟩
    · cases h
      exact ⟨'f', rfl, hs' ▸ rfl⟩

theorem read_intercalate {docs : List Document} {texts : List String}
    (h : docs.mapM textOf = .ok texts) :
    read ("\n---\n".intercalate texts).toList = some docs := by
  rw [String.toList_intercalate]
  induction docs generalizing texts with
  | nil =>
    cases h
    rfl
  | cons doc docs ih =>
    rw [List.mapM_cons] at h
    obtain ⟨text, htext, h⟩ := Except.bind_eq_ok.mp h
    obtain ⟨rest, hrest, h⟩ := Except.bind_eq_ok.mp h
    cases h
    obtain ⟨c, hc, hdoc⟩ := textOf_eq_ok htext
    have ih := ih hrest
    cases rest with
    | nil =>
      obtain rfl : [] = docs := Option.some.inj ih
      simp [List.intercalate, hc, read, hdoc]
    | cons text' rest =>
      rw [List.map_cons, List.map_cons, List.intercalate_cons_cons, hc]
      have hread : ∀ rest, read ([c] ++ "\n---\n".toList ++ rest) = (do
          let doc ← documentOf c
          let docs ← read rest
          pure (doc :: docs)) := fun _ => rfl
      rw [List.map_cons] at ih
      rw [hread, hdoc, ih]
      rfl

def codec : ManifestCodec Document Unit where
  getSerializedObjects text :=
    match read text.toList with
    | some docs => .ok docs
    | none => .error "cannot be decoded"
  typeMeta
    | .configMap => some ("ConfigMap", "v1")
    | .secret _ => some ("Secret", "v1")
  fromUnstructured
    | .configMap => none
    | .secret s => some s
  marshal s := .ok (.secret s)
  jsonToYAML := textOf
  read_back _ _ h := by rw [read_intercalate h]
  typeMeta_marshal _ _ h := by
    cases h
    rfl
  fromUnstructured_marshal _ _ h := by
    cases h
    rfl

end ManifestSample

open ManifestSample in
/-- A manifest with the Secret in the first place. -/
theorem modifyYAMlString_sample :
    codec.getSerializedObjects "s\n---\nc" = .ok [.secret credentials, .configMap] ∧
    codec.modifyYAMlString "s\n---\nc" "creds" "kube-system" "cloud-config" "kubeconfig" =
      .ok "f\n---\nc" ∧
    ∃ docs', codec.getSerializedObjects "f\n---\nc" = .ok docs' ∧
      codec.Modifies "creds" "kube-system" "cloud-config" "kubeconfig"
        [.secret credentials, .configMap] docs' := by
  have hrun : codec.getSerializedObjects "s\n---\nc" = .ok [.secret credentials, .configMap] ∧
      codec.modifyYAMlString "s\n---\nc" "creds" "kube-system" "cloud-config" "kubeconfig" =
        .ok "f\n---\nc" ∧
      [Document.secret credentials, .configMap].findIdx? (codec.holds "creds" "kube-system") =
        some 0 := by
    decide +kernel
  obtain ⟨hdocs, hmodify, hfirst⟩ := hrun
  refine ⟨hdocs, hmodify, (modifyYAMlString_iff hdocs hmodify).mpr fun i hi => ?_⟩
  obtain rfl := Option.some.inj (hfirst.symm.trans hi)
  nofun

open ManifestSample in
/-- With a ConfigMap before it, the Secret is left as it is and the ConfigMap is overwritten. -/
theorem modifyYAMlString_overwrites :
    codec.getSerializedObjects "c\n---\ns" = .ok [.configMap, .secret credentials] ∧
    codec.modifyYAMlString "c\n---\ns" "creds" "kube-system" "cloud-config" "kubeconfig" =
      .ok "f\n---\ns" ∧
    codec.getSerializedObjects "f\n---\ns" = .ok [.secret filledIn, .secret credentials] ∧
    ¬ codec.Modifies "creds" "kube-system" "cloud-config" "kubeconfig"
      [.configMap, .secret credentials] [.secret filledIn, .secret credentials] := by
  have hrun : codec.getSerializedObjects "c\n---\ns" = .ok [.configMap, .secret credentials] ∧
      codec.modifyYAMlString "c\n---\ns" "creds" "kube-system" "cloud-config" "kubeconfig" =
        .ok "f\n---\ns" ∧
      codec.getSerializedObjects "f\n---\ns" = .ok [.secret filledIn, .secret credentials] ∧
      [Document.configMap, .secret credentials].findIdx? (codec.holds "creds" "kube-system") =
        some 1 := by
    decide +kernel
  obtain ⟨hdocs, hmodify, hresult, hsecond⟩ := hrun
  refine ⟨hdocs, hmodify, hresult, ?_⟩
  unfold ManifestCodec.Modifies
  rw [hsecond]
  rintro ⟨-, -, -, -, doc', -, h⟩
  cases List.head_eq_of_cons_eq h

end Caphv
