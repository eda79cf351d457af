import Mathlib.Data.String.Basic
import Caphv.ClusterNames
import Caphv.DiskNames

namespace Caphv

/-- The components joined by dashes, with every other rune replaced. -/
def joinedName (nameComponents : List String) : List Char :=
  (['-'].intercalate (nameComponents.map String.toList)).map nameRune

/-- What `GenerateRFC1035Name` cuts to 63 bytes. -/
def uncutName (nameComponents : List String) : List Char :=
  withLeadingLetter (trimDashes (joinedName nameComponents))

theorem toList_generateRFC1035Name (nameComponents : List String) :
    (generateRFC1035Name nameComponents).toList =
      (uncutName nameComponents).take maximumLabelLength := String.toList_ofList

def isAlphanumeric (c : Char) : Bool := c.isLower || c.isDigit

def isNameChar (c : Char) : Bool := isAlphanumeric c || c = '-'

structure IsRFC1035Label (s : String) : Prop where
  nonempty : 1 ≤ s.utf8ByteSize
  short : s.utf8ByteSize ≤ 63
  first : ∃ c ∈ s.toList.head?, c.isLower = true
  last : ∃ c ∈ s.toList.getLast?, isAlphanumeric c = true
  chars : ∀ c ∈ s.toList, isNameChar c = true

section Trim

variable {l : List Char}

section Classes

variable {c : Char}

theorem isLower_iff : c.isLower = true ↔ 97 ≤ c.val ∧ c.val ≤ 122 := by
  delta Char.isLower
  rw [Bool.and_eq_true, decide_eq_true_eq, decide_eq_true_eq]
  rfl

theorem isUpper_iff : c.isUpper = true ↔ 65 ≤ c.val ∧ c.val ≤ 90 := by
  delta Char.isUpper
  rw [decide_eq_true_eq]
  rfl

theorem isDigit_iff : c.isDigit = true ↔ 48 ≤ c.val ∧ c.val ≤ 57 := by
  delta Char.isDigit
  rw [Bool.and_eq_true, decide_eq_true_eq, decide_eq_true_eq]
  rfl

theorem isNameChar_iff :
    isNameChar c = true ↔ (c.isLower = true ∨ c.isDigit = true) ∨ c = '-' := by
  rw [isNameChar, isAlphanumeric, Bool.or_eq_true, Bool.or_eq_true, decide_eq_true_eq]

theorem isLower_toLower (h : c.isUpper = true) : c.toLower.isLower = true := by
  have hupper : c.val ≥ 'A'.val ∧ c.val ≤ 'Z'.val := isUpper_iff.mp h
  have hvalue : c.toLower.val = c.val + 32 := by
    delta Char.toLower
    rw [dif_pos hupper]
    rfl
  rw [isLower_iff, hvalue]
  grind

end Classes

theorem isNameChar_nameRune (c : Char) : isNameChar (nameRune c) = true := by
  unfold nameRune
  split_ifs with hupper hname
  · simp [isNameChar, isAlphanumeric, isLower_toLower hupper]
  · simpa [isNameChar, isAlphanumeric] using hname
  · decide
  · decide
  · decide

theorem mem_of_mem_trimDashes {c : Char} (h : c ∈ trimDashes l) : c ∈ l := by
  have hfront := (List.dropWhile_sublist _).subset (List.mem_reverse.mp h)
  exact (List.dropWhile_sublist _).subset (List.mem_reverse.mp hfront)

theorem ne_dash_of_head_dropWhile {c : Char} (h : c ∈ (l.dropWhile (· = '-')).head?) :
    c ≠ '-' := by
  have hhead := List.head?_dropWhile_not (fun c : Char => decide (c = '-')) l
  rw [h] at hhead
  exact of_decide_eq_false hhead

theorem getLast_trimDashes {c : Char} (h : c ∈ (trimDashes l).getLast?) : c ≠ '-' := by
  rw [trimDashes, List.getLast?_reverse] at h
  exact ne_dash_of_head_dropWhile h

/-- A list with something other than dashes is not trimmed away. -/
theorem trimDashes_ne_nil (h : ∃ c ∈ l, c ≠ '-') : trimDashes l ≠ [] := by
  obtain ⟨c, hc, hne⟩ := h
  intro hnil
  have hempty := List.dropWhile_eq_nil_iff.mp (List.reverse_eq_nil_iff.mp hnil)
  have hfront : l.dropWhile (· = '-') = [] := by
    by_contra hfront
    have hhead := List.head_dropWhile_not (fun c : Char => decide (c = '-')) hfront
    have hmem := hempty _ (List.mem_reverse.mpr (List.head_mem hfront))
    rw [hhead] at hmem
    cases hmem
  exact hne (of_decide_eq_true (List.dropWhile_eq_nil_iff.mp hfront c hc))

theorem withLeadingLetter_head (h : l ≠ []) :
    ∃ c ∈ (withLeadingLetter l).head?, c.isLower = true := by
  cases l with
  | nil => exact absurd rfl h
  | cons c cs =>
    rw [withLeadingLetter]
    split_ifs with hc
    · exact ⟨c, rfl, hc⟩
    · exact ⟨'a', rfl, by decide⟩

theorem getLast_withLeadingLetter : (withLeadingLetter l).getLast? = l.getLast? := by
  cases l with
  | nil => rfl
  | cons c cs =>
    rw [withLeadingLetter]
    split_ifs with hc
    · rfl
    · rw [List.getLast?_cons_cons, List.getLast?_cons_cons]

theorem mem_withLeadingLetter {c : Char} (h : c ∈ withLeadingLetter l) :
    c = 'a' ∨ c = '-' ∨ c ∈ l := by
  cases l with
  | nil => cases h
  | cons d ds =>
    rw [withLeadingLetter] at h
    split_ifs at h with hd
    · exact Or.inr (Or.inr h)
    · simpa using h

/-- One byte for each character of a name. -/
theorem utf8ByteSize_of_isNameChar {s : String} (h : ∀ c ∈ s.toList, isNameChar c = true) :
    s.utf8ByteSize = s.toList.length := by
  rw [← String.ofList_toList (s := s), String.utf8ByteSize_ofList, String.toList_ofList]
  generalize s.toList = l at h
  induction l with
  | nil => rfl
  | cons c cs ih =>
    have hc : c.utf8Size = 1 := by
      rw [Char.utf8Size_eq_one_iff]
      rcases isNameChar_iff.mp (h c List.mem_cons_self) with (hlower | hdigit) | rfl
      · exact UInt32.le_trans (isLower_iff.mp hlower).2 (by decide)
      · exact UInt32.le_trans (isDigit_iff.mp hdigit).2 (by decide)
      · decide
    rw [String.utf8Len_cons, ih fun d hd => h d (List.mem_cons_of_mem _ hd), hc,
      List.length_cons]

end Trim

section Label

variable {nameComponents : List String}

theorem isNameChar_of_mem_uncutName {c : Char} (h : c ∈ uncutName nameComponents) :
    isNameChar c = true := by
  rcases mem_withLeadingLetter h with rfl | rfl | hmem
  · decide
  · decide
  · obtain ⟨d, -, rfl⟩ := List.mem_map.mp (mem_of_mem_trimDashes hmem)
    exact isNameChar_nameRune d

theorem ne_dash_of_isAlphanumeric {c : Char} (h : isAlphanumeric c = true) : c ≠ '-' := by
  rintro rfl
  revert h
  decide

theorem uncutName_spec (h : ∃ c ∈ joinedName nameComponents, isAlphanumeric c = true) :
    (∃ c ∈ (uncutName nameComponents).head?, c.isLower = true) ∧
      ∃ c ∈ (uncutName nameComponents).getLast?, isAlphanumeric c = true := by
  obtain ⟨c, hc, halnum⟩ := h
  have hne := trimDashes_ne_nil ⟨c, hc, ne_dash_of_isAlphanumeric halnum⟩
  refine ⟨withLeadingLetter_head hne, ?_⟩
  obtain ⟨d, hd⟩ := Option.ne_none_iff_exists'.mp (mt List.getLast?_eq_none_iff.mp hne)
  have hlast : (uncutName nameComponents).getLast? = some d := getLast_withLeadingLetter.trans hd
  have hname := isNameChar_of_mem_uncutName (List.mem_of_getLast? hlast)
  refine ⟨d, hlast, ?_⟩
  simpa [isNameChar, getLast_trimDashes hd] using hname

/-- The result is an RFC 1035 label exactly if the cut is not behind a dash. -/
theorem generateRFC1035Name_label_iff
    (h : ∃ c ∈ joinedName nameComponents, isAlphanumeric c = true) :
    IsRFC1035Label (generateRFC1035Name nameComponents) ↔
      (uncutName nameComponents)[62]? ≠ some '-' := by
  obtain ⟨⟨a, ha, hlower⟩, z, hz, halnum⟩ := uncutName_spec h
  have hlist := toList_generateRFC1035Name nameComponents
  have hchars : ∀ c ∈ (generateRFC1035Name nameComponents).toList, isNameChar c = true := by
    rw [hlist]
    exact fun c hc => isNameChar_of_mem_uncutName (List.mem_of_mem_take hc)
  have hsize := utf8ByteSize_of_isNameChar hchars
  have hlast : (generateRFC1035Name nameComponents).toList.getLast? =
      some (((uncutName nameComponents)[62]?).getD z) := by
    rw [hlist, List.getLast?_take, if_neg (by decide), hz]
    exact Option.or_some
  constructor
  · intro hlabel hdash
    obtain ⟨c, hc, hcalnum⟩ := hlabel.last
    rw [hlast, hdash] at hc
    exact ne_dash_of_isAlphanumeric hcalnum (Option.some.inj hc).symm
  · intro hdash
    have hpos : 0 < (uncutName nameComponents).length :=
      List.length_pos_of_mem (List.mem_of_head? ha)
    constructor
    case nonempty =>
      rw [hsize, hlist, List.length_take, maximumLabelLength]
      omega
    case short =>
      rw [hsize, hlist, List.length_take, maximumLabelLength]
      omega
    case first =>
      refine ⟨a, ?_, hlower⟩
      rw [hlist, List.head?_take, if_neg (by decide)]
      exact ha
    case last =>
      refine ⟨_, hlast, ?_⟩
      cases hcut : (uncutName nameComponents)[62]? with
      | none => exact halnum
      | some c =>
        have hname := isNameChar_of_mem_uncutName (List.mem_of_getElem? hcut)
        have hne : c ≠ '-' := fun hc => hdash (hc ▸ hcut)
        simpa [isNameChar, hne] using hname
    case chars => exact hchars

end Label

theorem generateRFC1035Name_ne_empty (ns name : String) {suffix : String} {x : Char}
    (hx : x ∈ suffix.toList) (halnum : isAlphanumeric (nameRune x) = true) :
    generateRFC1035Name [ns, name, suffix] ≠ "" := by
  have hmem : nameRune x ∈ joinedName [ns, name, suffix] := by
    refine List.mem_map_of_mem ?_
    simp only [List.map_cons, List.map_nil, List.intercalate_cons_cons, List.intercalate_singleton]
    exact List.mem_append_right _ (List.mem_append_right _ hx)
  obtain ⟨⟨c, hc, -⟩, -⟩ := uncutName_spec ⟨_, hmem, halnum⟩
  intro hempty
  have hnil := congrArg String.toList hempty
  rw [toList_generateRFC1035Name] at hnil
  rcases List.take_eq_nil_iff.mp hnil with h | h
  · exact absurd h (by decide)
  · rw [h] at hc
    cases hc

theorem vmPoolName_ne_empty (k : ObjectKey) : k.vmPoolName ≠ "" :=
  generateRFC1035Name_ne_empty k.ns k.name (x := 'v') (by decide) (by decide)

theorem lbPoolName_ne_empty (k : ObjectKey) : k.lbPoolName ≠ "" :=
  generateRFC1035Name_ne_empty k.ns k.name (x := 'p') (by decide) (by decide)

theorem generateRFC1035Name_label_sample :
    IsRFC1035Label (generateRFC1035Name ["1TeStNS123",
      "namewith20characters-namewith20characters-namewith20characters"]) := by
  refine (generateRFC1035Name_label_iff ⟨'t', by decide, by decide⟩).mpr (by decide)

/-- The cut leaves a dash at the end. -/
theorem label_ends_with_dash :
    (∃ c ∈ joinedName [String.ofList (List.replicate 62 'n'), "lb"], isAlphanumeric c = true) ∧
      (generateRFC1035Name [String.ofList (List.replicate 62 'n'), "lb"]).toList =
        List.replicate 62 'n' ++ ['-'] ∧
      ¬ IsRFC1035Label (generateRFC1035Name [String.ofList (List.replicate 62 'n'), "lb"]) := by
  have hjoined : ∃ c ∈ joinedName [String.ofList (List.replicate 62 'n'), "lb"],
      isAlphanumeric c = true := ⟨'n', by decide +kernel, by decide⟩
  have hresult : (generateRFC1035Name [String.ofList (List.replicate 62 'n'), "lb"]).toList =
      List.replicate 62 'n' ++ ['-'] := by decide +kernel
  refine ⟨hjoined, hresult, fun hlabel => ?_⟩
  obtain ⟨c, hc, halnum⟩ := hlabel.last
  rw [hresult, List.getLast?_concat] at hc
  exact ne_dash_of_isAlphanumeric halnum (Option.some.inj hc).symm

inductive Resource where
  | loadBalancer
  | loadBalancerPool
  | vmPool
  deriving DecidableEq

def Resource.suffix : Resource → String
  | loadBalancer => "lb"
  | loadBalancerPool => "ippool"
  | vmPool => "vm-ippool"

def ObjectKey.resourceName (k : ObjectKey) : Resource → String
  | .loadBalancer => k.lbName
  | .loadBalancerPool => k.lbPoolName
  | .vmPool => k.vmPoolName

theorem resourceName_eq (k : ObjectKey) (res : Resource) :
    k.resourceName res = generateRFC1035Name [k.ns, k.name, res.suffix] := by
  cases res with
  | loadBalancer => rfl
  | loadBalancerPool => rfl
  | vmPool => rfl

/-- A namespace is a DNS label, and the name of an object a DNS subdomain. -/
@[mk_iff]
structure ObjectKey.IsValid (k : ObjectKey) : Prop where
  short : k.ns.length ≤ 63
  ns : Machine.isLabel k.ns.toList = true
  name : Machine.IsObjectName k.name

instance (k : ObjectKey) : Decidable k.IsValid := decidable_of_iff' _ (ObjectKey.isValid_iff k)

/-- A namespace as it begins a generated name. -/
def leadingNamespace (ns : List Char) : List Char :=
  if ns.head?.any Char.isDigit then 'a' :: '-' :: ns else ns

def dashed (name : List Char) : List Char := name.map fun c => if c = '.' then '-' else c

/-- Namespace, name and suffix as they stand in the generated name of a valid key. -/
def ObjectKey.spelled (k : ObjectKey) (res : Resource) : List Char :=
  leadingNamespace k.ns.toList ++ '-' :: (dashed k.name.toList ++ '-' :: res.suffix.toList)

section Spelled

variable {l : List Char} {k k' : ObjectKey}

theorem isLabel_iff : Machine.isLabel l = true ↔ l ≠ [] ∧ (∀ c ∈ l, isNameChar c = true) ∧
    l.head? ≠ some '-' ∧ l.getLast? ≠ some '-' := by
  simp [Machine.isLabel, isNameChar, isAlphanumeric, and_assoc]

theorem nameRune_of_isNameChar {c : Char} (h : isNameChar c = true) : nameRune c = c := by
  have hupper : c.isUpper = false := by
    refine Bool.eq_false_iff.mpr fun hupper => ?_
    obtain ⟨hge, hle⟩ := isUpper_iff.mp hupper
    rcases isNameChar_iff.mp h with (hlower | hdigit) | rfl
    · exact absurd (UInt32.le_trans (isLower_iff.mp hlower).1 hle) (by decide)
    · exact absurd (UInt32.le_trans hge (isDigit_iff.mp hdigit).2) (by decide)
    · exact absurd hupper (by decide)
  have hname : (c.isLower || c.isDigit || decide (c = '-')) = true := h
  rw [nameRune, hupper, if_neg Bool.false_ne_true, if_pos hname]

theorem mem_intercalate {x c : Char} {ls : List (List Char)} (h : c ∈ [x].intercalate ls) :
    c = x ∨ ∃ l ∈ ls, c ∈ l := by
  induction ls with
  | nil => cases h
  | cons l ls ih =>
    cases ls with
    | nil =>
      rw [List.intercalate_singleton] at h
      exact Or.inr ⟨l, List.mem_cons_self, h⟩
    | cons l' ls =>
      rw [List.intercalate_cons_cons, List.append_assoc, List.mem_append] at h
      rcases h with h | h
      · exact Or.inr ⟨l, List.mem_cons_self, h⟩
      · rcases List.mem_cons.mp h with rfl | h
        · exact Or.inl rfl
        · rcases ih h with rfl | ⟨l'', hl'', hc⟩
          · exact Or.inl rfl
          · exact Or.inr ⟨l'', List.mem_cons_of_mem _ hl'', hc⟩

/-- A subdomain is written with the characters of labels and dots. -/
theorem char_of_isObjectName {name : String} (h : Machine.IsObjectName name) {c : Char}
    (hc : c ∈ name.toList) : c = '.' ∨ isNameChar c = true := by
  have hjoin : ['.'].intercalate (name.toList.splitOn '.') = name.toList :=
    List.intercalate_splitOn '.'
  rw [← hjoin] at hc
  rcases mem_intercalate hc with rfl | ⟨l, hl, hc⟩
  · exact Or.inl rfl
  · have hlabel := List.all_eq_true.mp h.2 l hl
    exact Or.inr ((isLabel_iff.mp hlabel).2.1 c hc)

theorem map_nameRune_of_isLabel (h : Machine.isLabel l = true) : l.map nameRune = l :=
  (List.map_congr_left fun c hc => nameRune_of_isNameChar ((isLabel_iff.mp h).2.1 c hc)).trans
    (List.map_id l)

theorem map_nameRune_of_isObjectName {name : String} (h : Machine.IsObjectName name) :
    name.toList.map nameRune = dashed name.toList := by
  refine List.map_congr_left fun c hc => ?_
  rcases char_of_isObjectName h hc with rfl | hname
  · decide
  · rw [nameRune_of_isNameChar hname, if_neg]
    rintro rfl
    revert hname
    decide

theorem trimDashes_eq_self (hhead : l.head? ≠ some '-') (hlast : l.getLast? ≠ some '-') :
    trimDashes l = l := by
  have hkeep : ∀ m : List Char, m.head? ≠ some '-' → m.dropWhile (· = '-') = m := by
    intro m hm
    cases m with
    | nil => rfl
    | cons c cs =>
      refine List.dropWhile_cons_of_neg fun hc => hm ?_
      rw [of_decide_eq_true hc]
      rfl
  rw [trimDashes, hkeep l hhead, hkeep l.reverse (by rwa [List.head?_reverse]),
    List.reverse_reverse]

theorem suffix_isLabel (res : Resource) : Machine.isLabel res.suffix.toList = true := by
  cases res with
  | loadBalancer => decide
  | loadBalancerPool => decide
  | vmPool => decide

/-- The generated name of a valid key, before the cut. -/
theorem uncutName_eq_spelled (hk : k.IsValid) (res : Resource) :
    uncutName [k.ns, k.name, res.suffix] = k.spelled res := by
  obtain ⟨hne, hchars, hhead, -⟩ := isLabel_iff.mp hk.ns
  obtain ⟨hsuffix, -, -, hlast⟩ := isLabel_iff.mp (suffix_isLabel res)
  have hjoined : joinedName [k.ns, k.name, res.suffix] =
      k.ns.toList ++ '-' :: (dashed k.name.toList ++ '-' :: res.suffix.toList) := by
    have hdash : nameRune '-' = '-' := by decide
    simp [joinedName, List.intercalate_cons_cons, map_nameRune_of_isLabel hk.ns,
      map_nameRune_of_isObjectName hk.name, map_nameRune_of_isLabel (suffix_isLabel res), hdash]
  have htrim : trimDashes (joinedName [k.ns, k.name, res.suffix]) =
      joinedName [k.ns, k.name, res.suffix] := by
    rw [hjoined]
    apply trimDashes_eq_self
    · rwa [List.head?_append_of_ne_nil _ hne]
    · rw [List.getLast?_append_of_ne_nil _ (List.cons_ne_nil _ _),
        ← List.cons_append, List.getLast?_append_of_ne_nil _ (List.cons_ne_nil _ _),
        ← List.singleton_append, List.getLast?_append_of_ne_nil _ hsuffix]
      exact hlast
  rw [uncutName, htrim, hjoined, ObjectKey.spelled]
  generalize '-' :: (dashed k.name.toList ++ '-' :: res.suffix.toList) = rest
  cases hns : k.ns.toList with
  | nil => exact absurd hns hne
  | cons c cs =>
    -- The namespace begins with a letter or a digit.
    rw [hns] at hchars hhead
    have hc := hchars c List.mem_cons_self
    have hdash : c ≠ '-' := fun hc => hhead (congrArg some hc)
    rw [List.cons_append, withLeadingLetter, leadingNamespace]
    cases hlower : c.isLower with
    | true =>
      have hdigit : c.isDigit = false := by
        refine Bool.eq_false_iff.mpr fun hdigit => ?_
        have hle := UInt32.le_trans (isLower_iff.mp hlower).1 (isDigit_iff.mp hdigit).2
        exact absurd hle (by decide)
      simp [hdigit]
    | false =>
      have hdigit : c.isDigit = true := by
        simpa [isNameChar, isAlphanumeric, hlower, hdash] using hc
      simp [hdigit]

theorem resourceName_eq_iff (hk : k.IsValid) (hk' : k'.IsValid) (res res' : Resource) :
    k.resourceName res = k'.resourceName res' ↔
      (k.spelled res).take 63 = (k'.spelled res').take 63 := by
  rw [← String.toList_inj, resourceName_eq, resourceName_eq, toList_generateRFC1035Name,
    toList_generateRFC1035Name, uncutName_eq_spelled hk, uncutName_eq_spelled hk']
  rfl

theorem suffix_injective : Function.Injective fun res : Resource => res.suffix.toList := by
  intro res res' h
  cases res <;> cases res' <;> first | rfl | exact absurd h (by decide)

end Spelled

def Resource.isPool : Resource → Bool
  | loadBalancer => false
  | loadBalancerPool => true
  | vmPool => true

/-- The name of a cluster with its dots replaced, and `-vm` behind it in the pool of the VMs. -/
def ObjectKey.qualified (k : ObjectKey) : Resource → List Char
  | .loadBalancer => dashed k.name.toList
  | .loadBalancerPool => dashed k.name.toList
  | .vmPool => dashed k.name.toList ++ ['-', 'v', 'm']

/-- Namespace and name of two clusters run into each other: both are the same, or the one namespace
is the other, a dash and a piece with which the name in the other namespace begins. -/
def Confusable (ns name ns' name' : List Char) : Prop :=
  ns = ns' ∧ name = name' ∨ (∃ x, ns' = ns ++ '-' :: x ∧ name = x ++ '-' :: name') ∨
    ∃ x, ns = ns' ++ '-' :: x ∧ name' = x ++ '-' :: name

/-- No character of the generated name is cut off. -/
def ObjectKey.Fits (k : ObjectKey) (res : Resource) : Prop :=
  (leadingNamespace k.ns.toList).length + k.name.toList.length + res.suffix.toList.length ≤ 61

instance (k : ObjectKey) (res : Resource) : Decidable (k.Fits res) :=
  inferInstanceAs (Decidable (_ ≤ _))

/-- A cluster whose generated names show its namespace and its name: no dashes or dots, a letter
at the front, and short enough for every suffix. -/
structure ObjectKey.IsPlain (k : ObjectKey) : Prop where
  ns : '-' ∉ k.ns.toList
  name : '-' ∉ k.name.toList ∧ '.' ∉ k.name.toList
  letter : k.ns.toList.head?.any Char.isDigit = false
  short : k.ns.toList.length + k.name.toList.length ≤ 52

section Distinct

variable {k k' : ObjectKey}

theorem ObjectKey.IsPlain.spelled_eq (h : k.IsPlain) (res : Resource) :
    k.spelled res = k.ns.toList ++ '-' :: (k.name.toList ++ '-' :: res.suffix.toList) := by
  have hdashed : dashed k.name.toList = k.name.toList := by
    refine (List.map_congr_left fun c hc => if_neg ?_).trans (List.map_id _)
    rintro rfl
    exact h.name.2 hc
  rw [ObjectKey.spelled, hdashed, leadingNamespace, h.letter, if_neg Bool.false_ne_true]

theorem ObjectKey.IsPlain.length_spelled (h : k.IsPlain) (res : Resource) :
    (k.spelled res).length ≤ 63 := by
  have hsuffix : res.suffix.toList.length ≤ 9 := by
    cases res with
    | loadBalancer => decide
    | loadBalancerPool => decide
    | vmPool => decide
  have hshort := h.short
  rw [h.spelled_eq]
  simp only [List.length_append, List.length_cons]
  omega

theorem ObjectKey.IsPlain.eq_of_spelled (h : k.IsPlain) (h' : k'.IsPlain) {res res' : Resource}
    (heq : k.spelled res = k'.spelled res') : k = k' ∧ res = res' := by
  rw [h.spelled_eq, h'.spelled_eq] at heq
  obtain ⟨hns, hrest⟩ := Splitting.append_mark_inj h.ns h'.ns heq
  obtain ⟨hname, hsuffix⟩ := Splitting.append_mark_inj h.name.1 h'.name.1 hrest
  refine ⟨?_, suffix_injective hsuffix⟩
  rw [ObjectKey.mk.injEq]
  exact ⟨String.toList_inj.mp hns, String.toList_inj.mp hname⟩

theorem ObjectKey.Fits.length_spelled {res : Resource} (h : k.Fits res) :
    (k.spelled res).length ≤ 63 := by
  have hdashed : (dashed k.name.toList).length = k.name.toList.length := List.length_map _
  unfold ObjectKey.Fits at h
  simp only [ObjectKey.spelled, List.length_append, List.length_cons]
  omega

theorem spelled_eq_qualified (k : ObjectKey) (res : Resource) :
    k.spelled res = (leadingNamespace k.ns.toList ++ '-' :: k.qualified res) ++
      '-' :: (if res.isPool then "ippool" else "lb").toList := by
  cases res with
  | loadBalancer => simp [ObjectKey.spelled, ObjectKey.qualified, Resource.suffix, Resource.isPool]
  | loadBalancerPool =>
    simp [ObjectKey.spelled, ObjectKey.qualified, Resource.suffix, Resource.isPool]
  | vmPool =>
    have hsuffix : Resource.vmPool.suffix.toList = ['v', 'm'] ++ '-' :: "ippool".toList := by decide
    simp [ObjectKey.spelled, ObjectKey.qualified, hsuffix, Resource.isPool]

/-- The last dash stands before `ippool` or `lb`. -/
theorem spelled_eq_iff (res res' : Resource) :
    k.spelled res = k'.spelled res' ↔ res.isPool = res'.isPool ∧
      Confusable (leadingNamespace k.ns.toList) (k.qualified res)
        (leadingNamespace k'.ns.toList) (k'.qualified res') := by
  have hlast : ∀ b : Bool, '-' ∉ (if b then "ippool" else "lb").toList := by decide
  have hkind : ∀ b b' : Bool, (if b then "ippool" else "lb").toList =
      (if b' then "ippool" else "lb").toList ↔ b = b' := by decide
  rw [spelled_eq_qualified, spelled_eq_qualified, Splitting.append_mark_eq_iff,
    Splitting.append_mark_eq_iff, hkind, and_comm, or_iff_left]
  · rfl
  · rintro (⟨x, -, h⟩ | ⟨x, -, h⟩)
    · exact hlast _ (h ▸ List.mem_append_right _ List.mem_cons_self)
    · exact hlast _ (h ▸ List.mem_append_right _ List.mem_cons_self)

def ObjectKey.spelledKey (k : ObjectKey) : List Char :=
  leadingNamespace k.ns.toList ++ '-' :: (dashed k.name.toList ++ ['-'])

theorem spelled_eq_append (k : ObjectKey) (res : Resource) :
    k.spelled res = k.spelledKey ++ res.suffix.toList := by
  simp [ObjectKey.spelled, ObjectKey.spelledKey]

/-- The names that one cluster generates are distinct exactly if the cut leaves a character of the
suffix. -/
theorem own_names_distinct_iff (hk : k.IsValid) :
    Function.Injective k.resourceName ↔
      (leadingNamespace k.ns.toList).length + k.name.toList.length ≤ 60 := by
  have hlength : k.spelledKey.length =
      (leadingNamespace k.ns.toList).length + k.name.toList.length + 2 := by
    simp only [ObjectKey.spelledKey, dashed, List.length_append, List.length_cons, List.length_map,
      List.length_nil]
    omega
  constructor
  · intro hinj
    by_contra hlong
    have hsame : k.resourceName .vmPool = k.resourceName .loadBalancer := by
      rw [resourceName_eq_iff hk hk, spelled_eq_append, spelled_eq_append,
        List.take_append_of_le_length (by omega), List.take_append_of_le_length (by omega)]
    cases hinj hsame
  · intro hshort res res' h
    -- The suffixes begin with different letters.
    have hplace := congrArg (fun l : List Char => l[k.spelledKey.length]?)
      ((resourceName_eq_iff hk hk res res').mp h)
    have hin : k.spelledKey.length < 63 := by omega
    simp only [spelled_eq_append, List.getElem?_take, if_pos hin,
      List.getElem?_append_right le_rfl, Nat.sub_self] at hplace
    cases res <;> cases res' <;> first | rfl | exact absurd hplace (by decide)

end Distinct

namespace NameSample

def dashedNamespace : ObjectKey := ⟨"team-a", "prod", by decide⟩

def dashedName : ObjectKey := ⟨"team", "a-prod", by decide⟩

def vmCluster : ObjectKey := ⟨"team", "a-prod-vm", by decide⟩

def plainCluster : ObjectKey := ⟨"team", "prod", by decide⟩

end NameSample

end Caphv
