import Mathlib.Data.Countable.Basic
import Mathlib.Data.Finmap
import Mathlib.Logic.Equiv.List
import Caphv.MachineController
import Caphv.Splitting

namespace Caphv.CloudInit

/-- A value of a decoded document: `nil`, a list, or anything else. What stands inside is only
copied. -/
inductive Value (α : Type) where
  | null
  | list (items : List α)
  | other (value : α)
  deriving DecidableEq

variable {α : Type}

namespace Value

def isList : Value α → Bool
  | list _ => true
  | _ => false

def items : Value α → List α
  | list items => items
  | _ => []

end Value

abbrev Object (α : Type) := Table String (Value α)

/-- The YAML codec. Reading and writing fit together, what is written depends on what the map holds
under each key only, and an empty document is the empty map. -/
structure Codec (α : Type) where
  unmarshal : String → Except String (Object α)
  marshal : Object α → Except String String
  marshal_congr : ∀ a b : Object α, (∀ k, a.lookup k = b.lookup k) → marshal a = marshal b
  roundTrip : ∀ a : Object α, ∃ text b, marshal a = .ok text ∧ unmarshal text = .ok b ∧
    ∀ k, b.lookup k = a.lookup k
  empty : unmarshal "" = .ok ∅

theorem countable_string : Countable String :=
  Function.Injective.countable (f := fun text : String => text.toList.map Char.toNat)
    fun _ _ h => String.toList_inj.mp
      (List.map_injective_iff.mpr (fun _ _ hcd => Char.toNat_inj.mp hcd) h)

theorem countable_value [Countable α] : Countable (Value α) := by
  let parts : Value α → ℕ × List α
    | .null => (0, [])
    | .list items => (1, items)
    | .other value => (2, [value])
  have hparts : Function.Injective parts := by
    intro a b h
    cases a <;> cases b <;> simp_all [parts]
  exact hparts.countable

/-- There is such a codec: the maps with texts in them can be numbered. -/
theorem Codec.nonempty : Nonempty (Codec String) := by
  classical
  have := countable_string
  have := countable_value (α := String)
  obtain ⟨number, hnumber⟩ := exists_injective_nat (Multiset (Σ _ : String, Value String))
  let text (a : Object String) : String := "m" ++ toString (number a.toFinmap.entries)
  have htext : ∀ a b, text a = text b ↔ ∀ k, a.lookup k = b.lookup k := by
    intro a b
    constructor
    · intro h k
      have hmaps : a.toFinmap = b.toFinmap := Finmap.ext
        (hnumber (Splitting.toString_inj ((String.append_right_inj _).mp h)))
      rw [← Finmap.lookup_toFinmap, ← Finmap.lookup_toFinmap, hmaps]
    · intro h
      have hmaps : a.toFinmap = b.toFinmap := Finmap.ext_lookup fun k => by
        rw [Finmap.lookup_toFinmap, Finmap.lookup_toFinmap, h k]
      simp only [text, hmaps]
  refine ⟨⟨fun t => if t = "" then .ok ∅ else if h : ∃ a, text a = t then .ok h.choose
    else .error "", fun a => .ok (text a), fun a b h => ?_, fun a => ?_, if_pos rfl⟩⟩
  · rw [(htext a b).mpr h]
  · have hex : ∃ b, text b = text a := ⟨a, rfl⟩
    have hne : text a ≠ "" := by
      intro h
      simpa [text] using congrArg String.toList h
    refine ⟨text a, hex.choose, rfl, ?_, (htext _ _).mp hex.choose_spec⟩
    rw [if_neg hne, dif_pos hex]

/-- The order in which Go's `range` visits the map of the document with the given number. -/
structure RangeOrder (α : Type) where
  range : ℕ → Object α → List (Σ _ : String, Value α)
  perm : ∀ i m, (range i m).Perm m.entries

def cloudInitListSections : List String :=
  ["packages", "runcmd", "ssh_authorized_keys", "groups", "users", "write_files", "bootcmd"]

def listSection (res : Object α) (k : String) : Except String (List α) :=
  match res.lookup k with
  | none => .ok []
  | some .null => .ok []
  | some (.list items) => .ok items
  | some (.other _) => .error "unable to cast list section to []any"

def mergeEntry (res : Object α) (e : Σ _ : String, Value α) : Except String (Object α) :=
  if e.1 ∈ cloudInitListSections then
    match listSection res e.1 with
    | .error err => .error err
    | .ok items =>
      match e.2 with
      | .list value => .ok (res.insert e.1 (.list (items ++ value)))
      | _ => .error "unable to cast value to []any"
  else .ok (res.insert e.1 e.2)

def mergeObject : Object α → List (Σ _ : String, Value α) → Except String (Object α)
  | res, [] => .ok res
  | res, e :: entries =>
    match mergeEntry res e with
    | .error err => .error err
    | .ok res => mergeObject res entries

def mergeDocuments (codec : Codec α) (order : RangeOrder α) :
    ℕ → Object α → List String → Except String (Object α)
  | _, res, [] => .ok res
  | i, res, cloudInit :: cloudInits =>
    match codec.unmarshal cloudInit with
    | .error err =>
      .error ("unable to unmarshall cloud-init, input cloud-init is malformed\n" ++ err)
    | .ok object =>
      match mergeObject res (order.range i object) with
      | .error err => .error err
      | .ok res => mergeDocuments codec order (i + 1) res cloudInits

def mergeCloudInitData (codec : Codec α) (order : RangeOrder α) (cloudInits : List String) :
    Except String String :=
  match mergeDocuments codec order 0 ∅ cloudInits with
  | .error err => .error err
  | .ok res =>
    match codec.marshal res with
    | .error err => .error ("unable to marshall cloud-init, input cloud-init is malformed\n" ++ err)
    | .ok text => .ok ("#cloud-config\n" ++ text)

abbrev Lookups (α : Type) := String → Option (Value α)

def view (m : Object α) : Lookups α := fun k => m.lookup k

/-- The value under a key once a document has given it another. -/
def combine (k : String) (old : Option (Value α)) (v : Value α) : Value α :=
  if k ∈ cloudInitListSections then .list ((old.map Value.items).getD [] ++ v.items) else v

/-- What a document does to the value under a key. -/
def absorb (k : String) (old new : Option (Value α)) : Option (Value α) :=
  match new with
  | none => old
  | some v => some (combine k old v)

/-- A value that the section of this name may have. -/
def fits (k : String) (v : Value α) : Prop := k ∈ cloudInitListSections → v.isList = true

instance (k : String) (v : Value α) : Decidable (fits k v) := inferInstanceAs (Decidable (_ → _))

def Sectioned (f : Lookups α) : Prop := ∀ k v, f k = some v → fits k v

instance (m : Object α) : Decidable (Sectioned (view m)) :=
  decidable_of_iff (∀ e ∈ m.entries, fits e.1 e.2)
    ⟨fun h k v hv => h ⟨k, v⟩ (AList.mem_lookup_iff.mp hv),
      fun h e he => h e.1 e.2 (AList.mem_lookup_iff.mpr he)⟩

/-- The merge, in terms of what is under each key: no order is left in it. -/
def mergedLookups (codec : Codec α) : Lookups α → List String → Except String (Lookups α)
  | f, [] => .ok f
  | f, cloudInit :: cloudInits =>
    match codec.unmarshal cloudInit with
    | .error err =>
      .error ("unable to unmarshall cloud-init, input cloud-init is malformed\n" ++ err)
    | .ok object =>
      if Sectioned (view object) then
        mergedLookups codec (fun k => absorb k (f k) (view object k)) cloudInits
      else .error "unable to cast value to []any"

section Refinement

variable {f : Lookups α} {res : Object α} {codec : Codec α}

theorem fits_combine (k : String) (old : Option (Value α)) (v : Value α) :
    fits k (combine k old v) := by
  intro hk
  rw [combine, if_pos hk]
  rfl

theorem Sectioned.absorb (hf : Sectioned f) (g : Lookups α) :
    Sectioned fun k => absorb k (f k) (g k) := by
  intro k v hv
  cases hg : g k with
  | none => exact hf k v (by simpa [CloudInit.absorb, hg] using hv)
  | some new =>
    have hnew : combine k (f k) new = v := by simpa [CloudInit.absorb, hg] using hv
    exact hnew ▸ fits_combine k (f k) new

theorem Sectioned.update (hf : Sectioned f) {k : String} {v : Value α} (hv : fits k v) :
    Sectioned (Function.update f k (some v)) := by
  intro k' v' hv'
  by_cases hk : k' = k
  · subst hk
    rw [Function.update_self] at hv'
    exact Option.some.inj hv' ▸ hv
  · rw [Function.update_of_ne hk] at hv'
    exact hf k' v' hv'

theorem view_insert (m : Object α) (k : String) (v : Value α) :
    view (m.insert k v) = Function.update (view m) k (some v) := by
  funext k'
  rw [view, Table.lookup_insert_eq, Function.update_apply]
  rfl

/-- The cast of a list section never fails: the result has lists there. -/
theorem listSection_eq (hres : Sectioned (view res)) {k : String}
    (hk : k ∈ cloudInitListSections) :
    listSection res k = .ok (((view res k).map Value.items).getD []) := by
  unfold listSection view
  cases hv : res.lookup k with
  | none => rfl
  | some v =>
    have hlist : v.isList = true := hres k v hv hk
    cases v with
    | null => cases hlist
    | list items => rfl
    | other value => cases hlist

theorem mergeEntry_of_fits (hres : Sectioned (view res)) {e : Σ _ : String, Value α}
    (he : fits e.1 e.2) :
    ∃ res', mergeEntry res e = .ok res' ∧
      view res' = Function.update (view res) e.1 (some (combine e.1 (view res e.1) e.2)) := by
  obtain ⟨k, v⟩ := e
  unfold mergeEntry combine
  by_cases hk : k ∈ cloudInitListSections
  · have hlist : v.isList = true := he hk
    rw [if_pos hk, if_pos hk, listSection_eq hres hk]
    cases v with
    | null => cases hlist
    | list value => exact ⟨_, rfl, view_insert _ _ _⟩
    | other value => cases hlist
  · rw [if_neg hk, if_neg hk]
    exact ⟨_, rfl, view_insert _ _ _⟩

theorem mergeEntry_of_not_fits (hres : Sectioned (view res)) {e : Σ _ : String, Value α}
    (he : ¬ fits e.1 e.2) : mergeEntry res e = .error "unable to cast value to []any" := by
  obtain ⟨k, v⟩ := e
  obtain ⟨hk, hlist⟩ := Classical.not_imp.mp he
  unfold mergeEntry
  rw [if_pos hk, listSection_eq hres hk]
  cases v with
  | null => rfl
  | list value => exact absurd rfl hlist
  | other value => rfl

/-- The loop over a document, in any order of its keys. -/
theorem mergeObject_view (entries : List (Σ _ : String, Value α)) (hnodup : entries.NodupKeys)
    (hres : Sectioned (view res)) :
    (mergeObject res entries).map view =
      if ∀ e ∈ entries, fits e.1 e.2 then
        .ok fun k => absorb k (view res k) (entries.dlookup k)
      else .error "unable to cast value to []any" := by
  induction entries generalizing res with
  | nil => simp [mergeObject, Except.map, absorb]
  | cons e entries ih =>
    -- The result stays sectioned, so a failure can only come from a value of this document.
    obtain ⟨hnot, hrest⟩ := List.nodupKeys_cons.mp hnodup
    unfold mergeObject
    by_cases he : fits e.1 e.2
    · obtain ⟨res', hstep, hview⟩ := mergeEntry_of_fits hres he
      have hres' : Sectioned (view res') := hview ▸ hres.update (fits_combine _ _ _)
      rw [hstep]
      dsimp only
      rw [ih hrest hres']
      have hall : (∀ e' ∈ e :: entries, fits e'.1 e'.2) ↔ ∀ e' ∈ entries, fits e'.1 e'.2 := by
        simp [he]
      simp only [hall]
      congr 2
      funext k
      rw [hview]
      by_cases hk : k = e.1
      · -- The key comes once, so the rest of the document leaves its value.
        subst hk
        rw [List.dlookup_eq_none.mpr hnot, Function.update_self, List.dlookup_cons_eq]
        rfl
      · rw [Function.update_of_ne hk, List.dlookup_cons_ne _ _ hk]
    · rw [mergeEntry_of_not_fits hres he, if_neg fun h => he (h e List.mem_cons_self)]
      rfl

theorem mergeObject_range (order : RangeOrder α) (i : ℕ) (object : Object α)
    (hres : Sectioned (view res)) :
    (mergeObject res (order.range i object)).map view =
      if Sectioned (view object) then .ok fun k => absorb k (view res k) (view object k)
      else .error "unable to cast value to []any" := by
  have hperm := order.perm i object
  have hnodup : (order.range i object).NodupKeys :=
    (List.perm_nodupKeys hperm).mpr object.nodupKeys
  have hfits : (∀ e ∈ order.range i object, fits e.1 e.2) ↔ Sectioned (view object) := by
    constructor
    · exact fun h k v hv => h ⟨k, v⟩ (hperm.mem_iff.mpr (AList.mem_lookup_iff.mp hv))
    · exact fun h e he => h e.1 e.2 (AList.mem_lookup_iff.mpr (hperm.mem_iff.mp he))
  have hlookup : ∀ k, (order.range i object).dlookup k = view object k := fun k =>
    List.perm_dlookup k hnodup hperm
  rw [mergeObject_view _ hnodup hres]
  simp only [hfits, hlookup]

/-- The loop over the documents computes the merge by keys, whatever the order of the keys. -/
theorem mergeDocuments_view (codec : Codec α) (order : RangeOrder α) (i : ℕ)
    (cloudInits : List String) (hres : Sectioned (view res)) :
    (mergeDocuments codec order i res cloudInits).map view =
      mergedLookups codec (view res) cloudInits := by
  induction cloudInits generalizing i res with
  | nil => rfl
  | cons cloudInit cloudInits ih =>
    unfold mergeDocuments mergedLookups
    cases codec.unmarshal cloudInit with
    | error err => rfl
    | ok object =>
      have hobject := mergeObject_range order i object hres
      dsimp only
      by_cases hs : Sectioned (view object)
      · rw [if_pos hs] at hobject ⊢
        cases hmerged : mergeObject res (order.range i object) with
        | error err =>
          rw [hmerged] at hobject
          cases hobject
        | ok res' =>
          rw [hmerged] at hobject
          have hview : view res' = fun k => absorb k (view res k) (view object k) :=
            Except.ok.inj hobject
          dsimp only
          rw [ih (i + 1) (hview ▸ hres.absorb (view object)), hview]
      · rw [if_neg hs] at hobject ⊢
        cases hmerged : mergeObject res (order.range i object) with
        | error err =>
          rw [hmerged] at hobject
          exact hobject
        | ok res' =>
          rw [hmerged] at hobject
          cases hobject

end Refinement

/-- The map of the result: the keys of all documents, with the lists of a section one after the
other and the last value under any other key. -/
structure Merged (objects : List (Object α)) (m : Object α) : Prop where
  keys : ∀ k, (m.lookup k).isSome ↔ ∃ object ∈ objects, (object.lookup k).isSome
  lists : ∀ k ∈ cloudInitListSections, (∃ object ∈ objects, (object.lookup k).isSome) →
    m.lookup k = some (.list (objects.flatMap fun object =>
      ((object.lookup k).map Value.items).getD []))
  last : ∀ k ∉ cloudInitListSections, ∀ before object after v,
    objects = before ++ object :: after → object.lookup k = some v →
      (∀ later ∈ after, later.lookup k = none) → m.lookup k = some v

def absorbAll (k : String) (old : Option (Value α)) (objects : List (Object α)) :
    Option (Value α) :=
  objects.foldl (fun old object => absorb k old (view object k)) old

section Absorb

variable {k : String} {old : Option (Value α)}

theorem isSome_absorb (new : Option (Value α)) :
    (absorb k old new).isSome ↔ old.isSome ∨ new.isSome := by
  cases new with
  | none => simp [absorb]
  | some v => simp [absorb]

theorem absorbAll_cons (object : Object α) (objects : List (Object α)) :
    absorbAll k old (object :: objects) = absorbAll k (absorb k old (view object k)) objects := rfl

theorem isSome_absorbAll (objects : List (Object α)) :
    (absorbAll k old objects).isSome ↔
      old.isSome ∨ ∃ object ∈ objects, (view object k).isSome := by
  induction objects generalizing old with
  | nil => simp [absorbAll]
  | cons object objects ih =>
    rw [absorbAll_cons, ih, isSome_absorb]
    simp [or_assoc]

theorem absorbAll_of_absent (objects : List (Object α))
    (h : ∀ object ∈ objects, view object k = none) : absorbAll k old objects = old := by
  induction objects with
  | nil => rfl
  | cons object objects ih =>
    rw [absorbAll_cons, h object List.mem_cons_self]
    exact ih fun o ho => h o (List.mem_cons_of_mem _ ho)

/-- The items of a list section, once it is there. -/
theorem items_absorbAll (hk : k ∈ cloudInitListSections) (old : Option (Value α))
    (objects : List (Object α)) :
    ((absorbAll k old objects).map Value.items).getD [] = (old.map Value.items).getD [] ++
      objects.flatMap fun object => ((view object k).map Value.items).getD [] := by
  induction objects generalizing old with
  | nil => simp [absorbAll]
  | cons object objects ih =>
    rw [absorbAll_cons, ih, List.flatMap_cons, ← List.append_assoc]
    congr 1
    cases hnew : view object k with
    | none => simp [absorb]
    | some v => simp [absorb, combine, hk, Value.items]

theorem sectioned_absorbAll (objects : List (Object α)) :
    Sectioned fun k => absorbAll (α := α) k none objects := by
  -- On the last document, which is the one that gave a key its value.
  induction objects using List.reverseRecOn with
  | nil => exact nofun
  | append_singleton objects object ih =>
    simp only [absorbAll, List.foldl_append, List.foldl_cons, List.foldl_nil]
    exact ih.absorb (view object)

theorem merged_of_absorbAll {objects : List (Object α)} {m : Object α}
    (hm : ∀ k, m.lookup k = absorbAll k none objects) : Merged objects m := by
  have hkeys : ∀ k, (m.lookup k).isSome ↔ ∃ object ∈ objects, (object.lookup k).isSome := by
    intro k
    rw [hm, isSome_absorbAll]
    simp [view]
  refine ⟨hkeys, fun k hk hsome => ?_, fun k hk before object after v hsplit hv hafter => ?_⟩
  · obtain ⟨v, hv⟩ := Option.isSome_iff_exists.mp ((hkeys k).mpr hsome)
    have hlist : v.isList = true := sectioned_absorbAll objects k v ((hm k).symm.trans hv) hk
    have hitems := items_absorbAll hk none objects
    rw [← hm, hv] at hitems
    rw [hv]
    cases v with
    | null => cases hlist
    | list items => exact congrArg (fun l => some (Value.list l)) hitems
    | other value => cases hlist
  · -- What `before` left is replaced, and nothing in `after` touches the key.
    rw [hm, hsplit, absorbAll, List.foldl_append, List.foldl_cons]
    have hobject : view object k = some v := hv
    refine (absorbAll_of_absent after hafter).trans ?_
    rw [hobject, absorb, combine, if_neg hk]

end Absorb

section Specification

variable {codec : Codec α}

theorem mergedLookups_eq_ok {f : Lookups α} {cloudInits : List String}
    {objects : List (Object α)} (hread : cloudInits.map codec.unmarshal = objects.map .ok)
    (hs : ∀ object ∈ objects, Sectioned (view object)) :
    mergedLookups codec f cloudInits = .ok fun k => absorbAll k (f k) objects := by
  induction cloudInits generalizing f objects with
  | nil =>
    obtain rfl := List.map_eq_nil_iff.mp hread.symm
    rfl
  | cons cloudInit cloudInits ih =>
    cases objects with
    | nil => cases hread
    | cons object objects =>
      obtain ⟨hobject, hrest⟩ := List.cons.inj hread
      unfold mergedLookups
      rw [hobject]
      dsimp only
      rw [if_pos (hs object List.mem_cons_self),
        ih hrest fun o ho => hs o (List.mem_cons_of_mem _ ho)]
      rfl

/-- A document that does not decode to a map, or whose map has something else in a list section. -/
def Malformed (codec : Codec α) (cloudInit : String) : Prop :=
  ∀ object, codec.unmarshal cloudInit = .ok object → ¬ Sectioned (view object)

theorem mergedLookups_eq_error {f : Lookups α} {cloudInits : List String}
    (h : ∃ cloudInit ∈ cloudInits, Malformed codec cloudInit) :
    ∃ err, mergedLookups codec f cloudInits = .error err := by
  induction cloudInits generalizing f with
  | nil =>
    obtain ⟨cloudInit, hmem, -⟩ := h
    cases hmem
  | cons cloudInit cloudInits ih =>
    unfold mergedLookups
    cases hread : codec.unmarshal cloudInit with
    | error err => exact ⟨_, rfl⟩
    | ok object =>
      dsimp only
      split_ifs with hs
      · obtain ⟨bad, hmem, hbad⟩ := h
        rcases List.mem_cons.mp hmem with rfl | hmem
        · exact absurd hs (hbad object hread)
        · exact ih ⟨bad, hmem, hbad⟩
      · exact ⟨_, rfl⟩

theorem exists_objects {cloudInits : List String}
    (h : ∀ cloudInit ∈ cloudInits, ¬ Malformed codec cloudInit) :
    ∃ objects : List (Object α), cloudInits.map codec.unmarshal = objects.map .ok ∧
      ∀ object ∈ objects, Sectioned (view object) := by
  induction cloudInits with
  | nil => exact ⟨[], rfl, nofun⟩
  | cons cloudInit cloudInits ih =>
    obtain ⟨objects, hread, hs⟩ := ih fun c hc => h c (List.mem_cons_of_mem _ hc)
    have hdoc := h cloudInit List.mem_cons_self
    unfold Malformed at hdoc
    push Not at hdoc
    obtain ⟨object, hobject, hsec⟩ := hdoc
    refine ⟨object :: objects, ?_, ?_⟩
    · rw [List.map_cons, List.map_cons, hobject, hread]
    · intro o ho
      rcases List.mem_cons.mp ho with rfl | ho
      · exact hsec
      · exact hs o ho

theorem sectioned_empty : Sectioned (view (∅ : Object α)) := nofun

/-- The maps that two orders lead to have the same under each key, or both fail alike. -/
theorem mergeCloudInitData_order (order order' : RangeOrder α) (cloudInits : List String) :
    mergeCloudInitData codec order cloudInits = mergeCloudInitData codec order' cloudInits := by
  have hview := mergeDocuments_view codec order 0 cloudInits sectioned_empty
  rw [← mergeDocuments_view codec order' 0 cloudInits sectioned_empty] at hview
  unfold mergeCloudInitData
  cases hres : mergeDocuments codec order 0 ∅ cloudInits with
  | error err =>
    cases hres' : mergeDocuments codec order' 0 ∅ cloudInits with
    | error err' =>
      rw [hres, hres'] at hview
      rw [Except.error.inj hview]
    | ok res' =>
      rw [hres, hres'] at hview
      cases hview
  | ok res =>
    cases hres' : mergeDocuments codec order' 0 ∅ cloudInits with
    | error err' =>
      rw [hres, hres'] at hview
      cases hview
    | ok res' =>
      rw [hres, hres'] at hview
      -- The two maps may list their entries differently; the encoding sorts the keys.
      have hsame : view res = view res' := Except.ok.inj hview
      dsimp only
      rw [codec.marshal_congr res res' fun k => congrFun hsame k]

theorem mergeCloudInitData_eq_ok {cloudInits : List String} {objects : List (Object α)}
    (hread : cloudInits.map codec.unmarshal = objects.map .ok)
    (hs : ∀ object ∈ objects, Sectioned (view object)) (order : RangeOrder α) :
    ∃ m text, Merged objects m ∧ codec.marshal m = .ok text ∧
      mergeCloudInitData codec order cloudInits = .ok ("#cloud-config\n" ++ text) := by
  have hview := mergeDocuments_view codec order 0 cloudInits sectioned_empty
  rw [mergedLookups_eq_ok hread hs] at hview
  unfold mergeCloudInitData
  cases hres : mergeDocuments codec order 0 ∅ cloudInits with
  | error err =>
    rw [hres] at hview
    cases hview
  | ok m =>
    rw [hres] at hview
    obtain ⟨text, -, htext, -⟩ := codec.roundTrip m
    refine ⟨m, text, merged_of_absorbAll fun k => ?_, htext, ?_⟩
    · exact congrFun (Except.ok.inj hview) k
    · dsimp only
      rw [htext]

theorem mergeCloudInitData_eq_error {cloudInits : List String}
    (h : ∃ cloudInit ∈ cloudInits, Malformed codec cloudInit) (order : RangeOrder α) :
    ∃ err, mergeCloudInitData codec order cloudInits = .error err := by
  have hview := mergeDocuments_view codec order 0 cloudInits sectioned_empty
  obtain ⟨err, herr⟩ := mergedLookups_eq_error (f := view ∅) h
  rw [herr] at hview
  unfold mergeCloudInitData
  cases hres : mergeDocuments codec order 0 ∅ cloudInits with
  | error err => exact ⟨err, rfl⟩
  | ok m =>
    rw [hres] at hview
    cases hview

end Specification

/-- `MergeCloudInitData` fails exactly if a document is malformed; otherwise the result is the text
of the merged map; and neither depends on the order in which Go visits the keys of a map. -/
theorem mergeCloudInitData_spec (codec : Codec α) (cloudInits : List String) :
    (∀ order, (∃ err, mergeCloudInitData codec order cloudInits = .error err) ↔
      ∃ cloudInit ∈ cloudInits, Malformed codec cloudInit) ∧
    (∀ objects : List (Object α), cloudInits.map codec.unmarshal = objects.map .ok →
      (∀ object ∈ objects, Sectioned (view object)) → ∀ order, ∃ m text, Merged objects m ∧
        codec.marshal m = .ok text ∧
        mergeCloudInitData codec order cloudInits = .ok ("#cloud-config\n" ++ text)) ∧
    ∀ order order', mergeCloudInitData codec order cloudInits =
      mergeCloudInitData codec order' cloudInits := by
  refine ⟨fun order => ⟨fun ⟨err, herr⟩ => ?_, fun h => mergeCloudInitData_eq_error h order⟩,
    fun objects hread hs order => mergeCloudInitData_eq_ok hread hs order,
    fun order order' => mergeCloudInitData_order order order' cloudInits⟩
  by_contra hgood
  push Not at hgood
  obtain ⟨objects, hread, hs⟩ := exists_objects hgood
  obtain ⟨m, text, -, -, hok⟩ := mergeCloudInitData_eq_ok hread hs order
  rw [herr] at hok
  cases hok

/-- The user data of a machine is the merge of its four documents; with a static network the third
is empty. -/
theorem userdata_merged {codec : Codec α} {order : RangeOrder α} {ext : Machine.Externals}
    (hext : ext.mergeCloudInitData = mergeCloudInitData codec order) {sc : Machine.Scope}
    {m : HarvesterMachine} {netCfg : Option NetworkConfig} {publicKey userData : String}
    {secret : CloudInitSecret}
    (h : Machine.cloudInitSecret ext sc m netCfg publicKey userData = .ok secret) :
    ∃ base ssh dhcp user : Object α, ∃ object text,
      codec.unmarshal cloudInitBase = .ok base ∧
      codec.unmarshal (cloudInitSSHSection publicKey) = .ok ssh ∧
      (netCfg ≠ none → dhcp = ∅) ∧ codec.unmarshal userData = .ok user ∧
      Merged [base, ssh, dhcp, user] object ∧ codec.marshal object = .ok text ∧
      secret.userdata = "#cloud-config\n" ++ text := by
  unfold Machine.cloudInitSecret at h
  rw [hext] at h
  dsimp only at h
  split at h
  · cases h
  next merged hmerged =>
    obtain rfl := Except.ok.inj h
    have hgood : ∀ cloudInit ∈ [cloudInitBase, cloudInitSSHSection publicKey,
        if netCfg = none ∧ m.spec.networks ≠ [] then buildDHCPCloudInit m.spec.networks else "",
        userData], ¬ Malformed codec cloudInit := by
      intro cloudInit hmem hbad
      obtain ⟨err, herr⟩ := mergeCloudInitData_eq_error ⟨cloudInit, hmem, hbad⟩ order
      rw [herr] at hmerged
      cases hmerged
    obtain ⟨objects, hread, hs⟩ := exists_objects hgood
    obtain ⟨object, text, hobject, htext, hok⟩ := mergeCloudInitData_eq_ok hread hs order
    rw [hmerged] at hok
    -- The four documents decode to four maps.
    rcases objects with _ | ⟨base, _ | ⟨ssh, _ | ⟨dhcp, _ | ⟨user, _ | ⟨_, _⟩⟩⟩⟩⟩
    · simp at hread
    · simp at hread
    · simp at hread
    · simp at hread
    · simp only [List.map_cons, List.map_nil, List.cons.injEq, and_true] at hread
      obtain ⟨hbase, hssh, hdhcp, huser⟩ := hread
      refine ⟨base, ssh, dhcp, user, object, text, hbase, hssh, fun hstatic => ?_, huser, hobject,
        htext, Except.ok.inj hok⟩
      rw [if_neg fun hnone => hstatic hnone.1, codec.empty] at hdhcp
      exact (Except.ok.inj hdhcp).symm
    · simp at hread

end Caphv.CloudInit
