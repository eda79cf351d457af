import Mathlib.Data.List.TakeWhile
import Mathlib.Tactic.IntervalCases
import Caphv.NetIP

namespace Caphv.Net

theorem digitValue_digit {n : ℕ} (hn : n < 16) : digitValue (digit n) = some n := by
  interval_cases n <;> decide

theorem decimalValue_digit {n : ℕ} (hn : n < 10) : decimalValue (digit n) = some n := by
  interval_cases n <;> decide

theorem digit_ne {n : ℕ} (hn : n < 16) : digit n ≠ '.' ∧ digit n ≠ ':' ∧ digit n ≠ '%' := by
  interval_cases n <;> decide

theorem mem_decimal {n : ℕ} (hn : n < 256) {c : Char} (hc : c ∈ decimal n) :
    ∃ d < 16, c = digit d := by
  simp only [decimal, List.mem_append, List.mem_singleton] at hc
  rcases hc with (hc | hc) | hc
  · split_ifs at hc
    · exact ⟨n / 100, by omega, by simpa using hc⟩
    · simp at hc
  · split_ifs at hc
    · exact ⟨n / 10 % 10, by omega, by simpa using hc⟩
    · simp at hc
  · exact ⟨n % 10, by omega, hc⟩

theorem mem_hex {n : ℕ} (hn : n < 65536) {c : Char} (hc : c ∈ hex n) : ∃ d < 16, c = digit d := by
  simp only [hex, List.mem_append, List.mem_singleton] at hc
  rcases hc with ((hc | hc) | hc) | hc
  · split_ifs at hc
    · exact ⟨n / 0x1000, by omega, by simpa using hc⟩
    · simp at hc
  · split_ifs at hc
    · exact ⟨n / 0x100 % 16, by omega, by simpa using hc⟩
    · simp at hc
  · split_ifs at hc
    · exact ⟨n / 0x10 % 16, by omega, by simpa using hc⟩
    · simp at hc
  · exact ⟨n % 16, by omega, hc⟩

theorem parseIPv4Fields_digit {d val digLen : ℕ} (hd : d < 10) (hz : ¬(digLen = 1 ∧ val = 0))
    (hv : val * 10 + d ≤ 255) (cs : List Char) (fields : List UInt8) :
    parseIPv4Fields (digit d :: cs) val digLen fields =
      parseIPv4Fields cs (val * 10 + d) (digLen + 1) fields := by
  simp only [parseIPv4Fields, decimalValue_digit hd, if_neg hz, if_neg (Nat.not_lt.mpr hv)]

theorem parseIPv4Fields_dot {val digLen : ℕ} (h : 0 < digLen) (cs : List Char)
    {fields : List UInt8} (hf : fields.length < 3) :
    parseIPv4Fields ('.' :: cs) val digLen fields =
      parseIPv4Fields cs 0 0 (fields ++ [UInt8.ofNat val]) := by
  have hd : decimalValue '.' = none := by decide
  have hn : ¬(digLen = 0 ∨ fields.length = 3) := by omega
  simp only [parseIPv4Fields, hd, if_pos, if_neg hn]

theorem parseIPv4Fields_decimal {n : ℕ} (hn : n < 256) (cs : List Char) (fields : List UInt8) :
    ∃ digLen > 0, parseIPv4Fields (decimal n ++ cs) 0 0 fields =
      parseIPv4Fields cs n digLen fields := by
  by_cases h1 : n < 10
  · refine ⟨1, Nat.one_pos, ?_⟩
    rw [decimal, if_neg (by omega), if_neg (by omega), List.nil_append, List.nil_append,
      List.singleton_append, parseIPv4Fields_digit (by omega) (by omega) (by omega)]
    congr 1
    omega
  by_cases h2 : n < 100
  · refine ⟨2, Nat.two_pos, ?_⟩
    rw [decimal, if_neg (by omega), if_pos (by omega), List.nil_append, List.append_assoc,
      List.singleton_append, List.singleton_append,
      parseIPv4Fields_digit (by omega) (by omega) (by omega),
      parseIPv4Fields_digit (by omega) (by omega) (by omega)]
    congr 1
    omega
  · refine ⟨3, by omega, ?_⟩
    rw [decimal, if_pos (by omega), if_pos (by omega)]
    simp only [List.cons_append, List.nil_append]
    rw [parseIPv4Fields_digit (by omega) (by omega) (by omega),
      parseIPv4Fields_digit (by omega) (by omega) (by omega),
      parseIPv4Fields_digit (by omega) (by omega) (by omega)]
    congr 1
    omega

theorem string4_eq (a b c d : UInt8) : string4 [a, b, c, d] =
    decimal a.toNat ++ '.' :: (decimal b.toNat ++ '.' :: (decimal c.toNat ++ '.' ::
      decimal d.toNat)) := by
  simp [string4, List.intercalate]

theorem parseIPv4Fields_string4 (a b c d : UInt8) :
    parseIPv4Fields (string4 [a, b, c, d]) 0 0 [] = some [a, b, c, d] := by
  rw [string4_eq]
  obtain ⟨_, ha, h⟩ := parseIPv4Fields_decimal a.toNat_lt _ []
  rw [h, parseIPv4Fields_dot ha _ (by simp)]
  obtain ⟨_, hb, h⟩ := parseIPv4Fields_decimal b.toNat_lt _ _
  rw [h, parseIPv4Fields_dot hb _ (by simp)]
  obtain ⟨_, hc, h⟩ := parseIPv4Fields_decimal c.toNat_lt _ _
  rw [h, parseIPv4Fields_dot hc _ (by simp)]
  obtain ⟨_, hd, h⟩ := parseIPv4Fields_decimal d.toNat_lt [] _
  rw [List.append_nil] at h
  rw [h]
  simp [parseIPv4Fields, hd]

/-- The character that decides between the two notations. -/
theorem find_separator {s : List Char} {sep : Char}
    (hsep : sep = '.' ∨ sep = ':') (hmem : sep ∈ s)
    (h : ∀ c ∈ s, c = sep ∨ (c ≠ '.' ∧ c ≠ ':' ∧ c ≠ '%')) :
    (s.find? fun c => c = '.' ∨ c = ':' ∨ c = '%') = some sep := by
  induction s with
  | nil => simp at hmem
  | cons c s ih =>
    by_cases hc : c = sep
    · subst hc
      rw [List.find?_cons_of_pos (by simp; tauto)]
    · have hne := (h c List.mem_cons_self).resolve_left hc
      rw [List.find?_cons_of_neg (by simp [hne])]
      exact ih (by simpa [Ne.symm hc] using hmem) fun x hx => h x (List.mem_cons_of_mem _ hx)

theorem parseHexField_digit {d off : ℕ} (hd : d < 16) (ho : off ≤ 3) (acc : ℕ) (cs : List Char) :
    parseHexField (digit d :: cs) off acc = parseHexField cs (off + 1) (acc * 16 + d) := by
  simp only [parseHexField, digitValue_digit hd, if_neg (Nat.not_lt.mpr ho)]

def AfterGroup (rest : List Char) : Prop := rest = [] ∨ ∃ cs, rest = ':' :: cs

theorem parseHexField_after {rest : List Char} (h : AfterGroup rest) (off acc : ℕ) :
    parseHexField rest off acc = some (off, acc, rest) := by
  have hd : digitValue ':' = none := by decide
  rcases h with rfl | ⟨cs, rfl⟩
  · rfl
  · simp only [parseHexField, hd]

theorem parseHexField_digits {rest : List Char} (h : AfterGroup rest) (ds : List ℕ)
    (off acc : ℕ) (hlen : off + ds.length ≤ 4) (hds : ∀ d ∈ ds, d < 16) :
    parseHexField (ds.map digit ++ rest) off acc =
      some (off + ds.length, ds.foldl (fun acc d => acc * 16 + d) acc, rest) := by
  induction ds generalizing off acc with
  | nil => simpa using parseHexField_after h off acc
  | cons d ds ih =>
    simp only [List.length_cons] at hlen
    rw [List.map_cons, List.cons_append,
      parseHexField_digit (hds d List.mem_cons_self) (by omega),
      ih _ _ (by omega) fun x hx => hds x (List.mem_cons_of_mem _ hx)]
    simp only [List.length_cons, List.foldl_cons]
    congr 2
    omega

/-- The hexadecimal digits that `hex` writes. -/
theorem hex_digits {n : ℕ} (hn : n < 65536) : ∃ ds : List ℕ, hex n = ds.map digit ∧ ds ≠ [] ∧
    ds.length ≤ 4 ∧ (∀ d ∈ ds, d < 16) ∧ ds.foldl (fun acc d => acc * 16 + d) 0 = n := by
  by_cases h1 : n < 0x10
  · refine ⟨[n], ?_, by simp, by simp, by simpa using h1, by simp⟩
    simp [hex, show ¬ 4096 ≤ n by omega, show ¬ 256 ≤ n by omega, show ¬ 16 ≤ n by omega,
      Nat.mod_eq_of_lt h1]
  by_cases h2 : n < 0x100
  · refine ⟨[n / 0x10, n % 16], ?_, by simp, by simp, by simp; omega, by simp; omega⟩
    simp [hex, show ¬ 4096 ≤ n by omega, show ¬ 256 ≤ n by omega, show 16 ≤ n by omega,
      show n / 16 % 16 = n / 16 by omega]
  by_cases h3 : n < 0x1000
  · refine ⟨[n / 0x100, n / 0x10 % 16, n % 16], ?_, by simp, by simp, by simp; omega,
      by simp; omega⟩
    simp [hex, show ¬ 4096 ≤ n by omega, show 256 ≤ n by omega, show 16 ≤ n by omega,
      show n / 256 % 16 = n / 256 by omega]
  · refine ⟨[n / 0x1000, n / 0x100 % 16, n / 0x10 % 16, n % 16], ?_, by simp, by simp,
      by simp; omega, by simp; omega⟩
    simp [hex, show 4096 ≤ n by omega, show 256 ≤ n by omega, show 16 ≤ n by omega]

theorem parseHexField_hex {n : ℕ} (hn : n < 65536) {rest : List Char} (h : AfterGroup rest) :
    ∃ off, off ≠ 0 ∧ parseHexField (hex n ++ rest) 0 0 = some (off, n, rest) := by
  obtain ⟨ds, hx, hne, hlen, hds, hval⟩ := hex_digits hn
  refine ⟨ds.length, by simpa using hne, ?_⟩
  rw [hx, parseHexField_digits h ds 0 0 (by omega) hds, hval, Nat.zero_add]

theorem hex_head {n : ℕ} (hn : n < 65536) : ∃ c cs, hex n = c :: cs ∧ c ≠ ':' := by
  obtain ⟨ds, hx, hne, -, hds, -⟩ := hex_digits hn
  obtain ⟨d, ds', rfl⟩ := List.exists_cons_of_ne_nil hne
  exact ⟨digit d, ds'.map digit, hx, (digit_ne (hds d List.mem_cons_self)).2.1⟩

@[simp] theorem render_nil : render [] = [] := rfl

@[simp] theorem render_singleton (g : ℕ) : render [g] = hex g := by
  simp [render, List.intercalate]

theorem render_cons_cons (g g' : ℕ) (gs : List ℕ) :
    render (g :: g' :: gs) = hex g ++ ':' :: render (g' :: gs) := by
  simp [render, List.intercalate]

theorem render_head {g : ℕ} (hg : g < 65536) (gs : List ℕ) :
    ∃ c cs, render (g :: gs) = c :: cs ∧ c ≠ ':' := by
  obtain ⟨c, cs, hx, hc⟩ := hex_head hg
  cases gs with
  | nil => exact ⟨c, cs, by rw [render_singleton, hx], hc⟩
  | cons g' gs => exact ⟨c, cs ++ ':' :: render (g' :: gs), by rw [render_cons_cons, hx]; rfl, hc⟩

/-- A last group, followed by the end of the text or by an ellipsis. -/
theorem parseGroups_last {g : ℕ} (hg : g < 65536) {bs : List UInt8} (hb : bs.length < 16)
    (fuel : ℕ) (ell : Option ℕ) :
    parseGroups (fuel + 1) (hex g) bs ell = some (bs ++ groupBytes g, ell) := by
  obtain ⟨off, hoff, hp⟩ := parseHexField_hex hg (Or.inl rfl)
  rw [List.append_nil] at hp
  simp only [parseGroups, if_neg (Nat.not_le.mpr hb), hp, if_neg hoff]

theorem parseGroups_ellipsis {g : ℕ} (hg : g < 65536) {bs : List UInt8} (hb : bs.length < 16)
    (fuel : ℕ) (rest : List Char) :
    parseGroups (fuel + 1) (hex g ++ ':' :: ':' :: rest) bs none =
      if rest = [] then some (bs ++ groupBytes g, some (bs.length + 2))
      else parseGroups fuel rest (bs ++ groupBytes g) (some (bs.length + 2)) := by
  obtain ⟨off, hoff, hp⟩ := parseHexField_hex hg (Or.inr ⟨':' :: rest, rfl⟩)
  simp only [parseGroups, if_neg (Nat.not_le.mpr hb), hp, if_neg hoff, ne_eq, not_true_eq_false,
    if_false]

theorem parseGroups_colon {g : ℕ} (hg : g < 65536) {bs : List UInt8} (hb : bs.length < 16)
    (fuel : ℕ) (ell : Option ℕ) {c : Char} (hc : c ≠ ':') (rest : List Char) :
    parseGroups (fuel + 1) (hex g ++ ':' :: c :: rest) bs ell =
      parseGroups fuel (c :: rest) (bs ++ groupBytes g) ell := by
  obtain ⟨off, hoff, hp⟩ := parseHexField_hex hg (Or.inr ⟨c :: rest, rfl⟩)
  simp only [parseGroups, if_neg (Nat.not_le.mpr hb), hp, if_neg hoff]
  split <;> simp_all

@[simp] theorem length_groupBytes (g : ℕ) : (groupBytes g).length = 2 := rfl

theorem length_flatMap_groupBytes (gs : List ℕ) :
    (gs.flatMap groupBytes).length = 2 * gs.length := by
  induction gs with
  | nil => rfl
  | cons g gs ih => simp [ih]; omega

/-- The groups written by `render` are read back, up to the end of the text. -/
theorem parseGroups_render {gs : List ℕ} (hne : gs ≠ []) (hgs : ∀ g ∈ gs, g < 65536) {fuel : ℕ}
    (hf : gs.length ≤ fuel) {bs : List UInt8} (hb : bs.length + 2 * gs.length ≤ 16)
    (ell : Option ℕ) :
    parseGroups fuel (render gs) bs ell = some (bs ++ gs.flatMap groupBytes, ell) := by
  induction gs generalizing fuel bs with
  | nil => exact absurd rfl hne
  | cons g gs ih =>
    simp only [List.length_cons] at hf hb
    obtain ⟨fuel, rfl⟩ : ∃ f, fuel = f + 1 := ⟨fuel - 1, by omega⟩
    have hg := hgs g List.mem_cons_self
    cases gs with
    | nil => simpa using parseGroups_last hg (by omega) fuel ell
    | cons g' gs =>
      obtain ⟨c, cs, hr, hc⟩ := render_head (hgs g' (by simp)) gs
      rw [render_cons_cons, hr, parseGroups_colon hg (by omega) _ _ hc, ← hr,
        ih (by simp) (fun x hx => hgs x (List.mem_cons_of_mem _ hx)) (by omega)
          (by simp at hb ⊢; omega)]
      simp

/-- The same when an ellipsis follows: the loop goes on after it. -/
theorem parseGroups_render_ellipsis {gs : List ℕ} (hne : gs ≠ []) (hgs : ∀ g ∈ gs, g < 65536)
    (fuel : ℕ) {bs : List UInt8} (hb : bs.length + 2 * gs.length ≤ 16) (rest : List Char) :
    parseGroups (gs.length + fuel) (render gs ++ ':' :: ':' :: rest) bs none =
      if rest = [] then some (bs ++ gs.flatMap groupBytes, some (bs.length + 2 * gs.length))
      else parseGroups fuel rest (bs ++ gs.flatMap groupBytes)
        (some (bs.length + 2 * gs.length)) := by
  induction gs generalizing bs with
  | nil => exact absurd rfl hne
  | cons g gs ih =>
    simp only [List.length_cons] at hb
    have hg := hgs g List.mem_cons_self
    have hfuel : (g :: gs).length + fuel = gs.length + fuel + 1 := by simp; omega
    cases gs with
    | nil => simpa [Nat.add_comm] using parseGroups_ellipsis hg (by omega) fuel rest
    | cons g' gs =>
      obtain ⟨c, cs, hr, hc⟩ := render_head (hgs g' (by simp)) gs
      rw [hfuel, render_cons_cons, List.append_assoc, List.cons_append, hr, List.cons_append,
        parseGroups_colon hg (by omega) _ _ hc, ← List.cons_append, ← hr,
        ih (by simp) (fun x hx => hgs x (List.mem_cons_of_mem _ hx)) (by simp at hb ⊢; omega)]
      simp only [List.length_append, length_groupBytes, List.length_cons, List.flatMap_cons,
        List.append_assoc]
      have hpos : bs.length + 2 + 2 * (gs.length + 1) = bs.length + 2 * (gs.length + 1 + 1) := by
        omega
      rw [hpos]

theorem groups_lt (bs : List UInt8) : ∀ g ∈ groups bs, g < 65536 := by
  induction bs using groups.induct with
  | case1 a b bs ih =>
    intro g hg
    simp only [groups, List.mem_cons] at hg
    rcases hg with rfl | hg
    · have := a.toNat_lt
      have := b.toNat_lt
      omega
    · exact ih g hg
  | case2 bs h =>
    intro g hg
    rw [groups] at hg
    · simp at hg
    · exact h

theorem groupBytes_pair (a b : UInt8) : groupBytes (a.toNat * 256 + b.toNat) = [a, b] := by
  have ha := a.toNat_lt
  have hb := b.toNat_lt
  simp only [groupBytes, List.cons.injEq, and_true]
  constructor
  · apply UInt8.toNat_inj.mp
    rw [UInt8.toNat_ofNat']
    omega
  · apply UInt8.toNat_inj.mp
    rw [UInt8.toNat_ofNat']
    omega

theorem flatMap_groups {bs : List UInt8} (h : bs.length = 16) :
    (groups bs).flatMap groupBytes = bs := by
  have gen : ∀ bs : List UInt8, bs.length % 2 = 0 → (groups bs).flatMap groupBytes = bs := by
    intro bs
    induction bs using groups.induct with
    | case1 a b bs ih =>
      intro h
      rw [groups, List.flatMap_cons, groupBytes_pair, ih (by simp at h; omega)]
      rfl
    | case2 bs h =>
      intro hlen
      match bs, h with
      | [], _ => rfl
      | [_], _ => simp at hlen
      | a :: b :: bs, h => exact absurd rfl (h a b bs)
  exact gen bs (by omega)

theorem length_groups {bs : List UInt8} (h : bs.length = 16) : (groups bs).length = 8 := by
  have hl := congrArg List.length (flatMap_groups h)
  rw [length_flatMap_groupBytes] at hl
  omega

/-- `zeroRun` is either empty or a run of at least two zero groups. -/
theorem zeroRun_spec (gs : List ℕ) :
    (zeroRun gs).2 = 0 ∨ (2 ≤ (zeroRun gs).2 ∧ (zeroRun gs).2 = zeroRunAt gs (zeroRun gs).1) := by
  unfold zeroRun
  refine List.foldlRecOn (motive := fun best : ℕ × ℕ =>
    best.2 = 0 ∨ (2 ≤ best.2 ∧ best.2 = zeroRunAt gs best.1)) _ _ (Or.inl rfl) ?_
  intro best hbest i _
  split_ifs with h
  · exact Or.inr ⟨h.1, rfl⟩
  · exact hbest

/-- A run of zero groups of length `n` at `i` splits the groups around it. -/
theorem eq_take_append_zeroRunAt (gs : List ℕ) (i : ℕ) :
    gs = gs.take i ++ List.replicate (zeroRunAt gs i) 0 ++ gs.drop (i + zeroRunAt gs i) := by
  have hz : (gs.drop i).takeWhile (· = 0) = List.replicate (zeroRunAt gs i) 0 := by
    refine List.eq_replicate_of_mem fun b hb => ?_
    simpa using List.mem_takeWhile_imp hb
  have hd : (gs.drop i).dropWhile (· = 0) = gs.drop (i + zeroRunAt gs i) := by
    rw [← List.drop_drop]
    conv_rhs => rw [← List.takeWhile_append_dropWhile (p := (· = 0)) (l := gs.drop i)]
    rw [zeroRunAt, List.drop_left]
  rw [← hz, ← hd, List.append_assoc, List.takeWhile_append_dropWhile, List.take_append_drop]

theorem flatMap_replicate_zero (n : ℕ) :
    (List.replicate n 0).flatMap groupBytes = List.replicate (2 * n) 0 := by
  induction n with
  | zero => rfl
  | succ n ih =>
    rw [List.replicate_succ, List.flatMap_cons, ih]
    rfl

theorem mem_render {gs : List ℕ} (hgs : ∀ g ∈ gs, g < 65536) {c : Char} (hc : c ∈ render gs) :
    c = ':' ∨ ∃ d < 16, c = digit d := by
  induction gs with
  | nil => simp at hc
  | cons g gs ih =>
    have hg := hgs g List.mem_cons_self
    cases gs with
    | nil => exact Or.inr (mem_hex hg (by simpa using hc))
    | cons g' gs =>
      rw [render_cons_cons, List.mem_append, List.mem_cons] at hc
      rcases hc with hc | rfl | hc
      · exact Or.inr (mem_hex hg hc)
      · exact Or.inl rfl
      · exact ih (fun x hx => hgs x (List.mem_cons_of_mem _ hx)) hc

theorem parseIPv6_leading {s : List Char} (hs : s ≠ []) (h : '%' ∉ s) :
    parseIPv6 (':' :: ':' :: s) = (parseGroups 9 s [] (some 0)).bind expand := by
  unfold parseIPv6
  rw [if_neg (by simpa using h)]
  split <;> simp_all

theorem parseIPv6_group {c : Char} (hc : c ≠ ':') {s : List Char} (h : '%' ∉ c :: s) :
    parseIPv6 (c :: s) = (parseGroups 9 (c :: s) [] none).bind expand := by
  unfold parseIPv6
  rw [if_neg h]
  split <;> simp_all

theorem percent_notMem_render {gs : List ℕ} (hgs : ∀ g ∈ gs, g < 65536) : '%' ∉ render gs := by
  intro h
  rcases mem_render hgs h with h' | ⟨d, hd, h'⟩
  · exact absurd h' (by decide)
  · exact (digit_ne hd).2.2 h'.symm

/-- An ellipsis between two lists of groups stands for the zero groups it replaced. -/
theorem parseIPv6_ellipsis {pre post : List ℕ} {n : ℕ} (hn : 0 < n)
    (hlen : pre.length + n + post.length = 8) (hpre : ∀ g ∈ pre, g < 65536)
    (hpost : ∀ g ∈ post, g < 65536) :
    parseIPv6 (render pre ++ ':' :: ':' :: render post) =
      some ((pre ++ List.replicate n 0 ++ post).flatMap groupBytes) := by
  have hzeros : 16 - (2 * pre.length + 2 * post.length) = 2 * n := by omega
  have hexp : expand (pre.flatMap groupBytes ++ post.flatMap groupBytes, some (2 * pre.length)) =
      some ((pre ++ List.replicate n 0 ++ post).flatMap groupBytes) := by
    have hl := length_flatMap_groupBytes pre
    simp only [expand, List.length_append, length_flatMap_groupBytes, Option.map_some]
    rw [if_pos (by omega), hzeros, ← hl, List.take_left, List.drop_left]
    simp only [List.flatMap_append, flatMap_replicate_zero]
  cases pre with
  | nil =>
    cases post with
    | nil =>
      obtain rfl : n = 8 := by simpa using hlen
      decide
    | cons g gs =>
      obtain ⟨c, cs, hr, -⟩ := render_head (hpost g List.mem_cons_self) gs
      have hlen' : n + (gs.length + 1) = 8 := by simpa using hlen
      rw [render_nil, List.nil_append,
        parseIPv6_leading (by simp [hr]) (percent_notMem_render hpost),
        parseGroups_render (by simp) hpost (by simp; omega) (by simp; omega)]
      exact hexp
  | cons g gs =>
    obtain ⟨c, cs, hr, hc⟩ := render_head (hpre g List.mem_cons_self) gs
    have hlen' : gs.length + 1 + n + post.length = 8 := by simpa using hlen
    have hfuel : 9 = (g :: gs).length + (9 - (g :: gs).length) := by simp; omega
    have hloop : parseGroups 9 (render (g :: gs) ++ ':' :: ':' :: render post) [] none =
        some ((g :: gs).flatMap groupBytes ++ post.flatMap groupBytes,
          some (2 * (g :: gs).length)) := by
      rw [hfuel, parseGroups_render_ellipsis (by simp) hpre _ (by simp; omega)]
      cases post with
      | nil => simp
      | cons p ps =>
        obtain ⟨c', cs', hr', -⟩ := render_head (hpost p List.mem_cons_self) ps
        simp only [List.length_cons] at hlen'
        rw [if_neg (by simp [hr']), parseGroups_render (by simp) hpost (by simp; omega)
            (by simp; omega)]
        simp
    have hperc : '%' ∉ render (g :: gs) ++ ':' :: ':' :: render post := by
      simp [percent_notMem_render hpre, percent_notMem_render hpost]
    rw [hr, List.cons_append] at hloop hperc ⊢
    rw [parseIPv6_group hc hperc, hloop]
    exact hexp

/-- Printing a sixteen-byte address in groups and parsing it gives it back. -/
theorem parseIPv6_string6 {bs : List UInt8} (h : bs.length = 16) :
    parseIPv6 (string6 (groups bs)) = some bs := by
  have hlen := length_groups h
  have hlt := groups_lt bs
  rcases zeroRun_spec (groups bs) with hz | ⟨hz2, hz⟩
  · rw [string6, if_pos hz]
    obtain ⟨g, gs, hgs⟩ := List.exists_cons_of_length_pos (l := groups bs) (by omega)
    obtain ⟨c, cs, hr, hc⟩ := render_head (hlt g (by simp [hgs])) gs
    have hperc := percent_notMem_render hlt
    have hloop := parseGroups_render (by simp [hgs]) hlt (show (groups bs).length ≤ 9 by omega)
      (show ([] : List UInt8).length + _ ≤ 16 by simp; omega) none
    rw [hgs, hr] at hloop hperc
    rw [hgs, hr, parseIPv6_group hc hperc, hloop, List.nil_append, ← hgs, flatMap_groups h]
    simp [expand, h]
  · rw [string6, if_neg (by omega)]
    have hsplit := eq_take_append_zeroRunAt (groups bs) (zeroRun (groups bs)).1
    rw [← hz] at hsplit
    rw [parseIPv6_ellipsis (n := (zeroRun (groups bs)).2) (by omega), ← hsplit, flatMap_groups h]
    · have := congrArg List.length hsplit
      simpa [hlen, Nat.add_assoc] using this.symm
    · exact fun g hg => hlt g (List.mem_of_mem_take hg)
    · exact fun g hg => hlt g (List.mem_of_mem_drop hg)

theorem colon_mem_string6 {bs : List UInt8} (h : bs.length = 16) : ':' ∈ string6 (groups bs) := by
  have hlen := length_groups h
  rw [string6]
  split_ifs
  · match hg : groups bs, hlen with
    | g :: g' :: gs, _ => simp [render_cons_cons]
  · simp

theorem mem_string6 {bs : List UInt8} {c : Char} (hc : c ∈ string6 (groups bs)) :
    c = ':' ∨ ∃ d < 16, c = digit d := by
  have hlt := groups_lt bs
  rw [string6] at hc
  split_ifs at hc
  · exact mem_render hlt hc
  · simp only [List.mem_append, List.mem_cons] at hc
    rcases hc with hc | hc | hc | hc
    · exact mem_render (fun g hg => hlt g (List.mem_of_mem_take hg)) hc
    · exact Or.inl hc
    · exact Or.inl hc
    · exact mem_render (fun g hg => hlt g (List.mem_of_mem_drop hg)) hc

theorem parseIP_string4 (a b c d : UInt8) :
    parseIP (String.ofList (string4 [a, b, c, d])) = ofBytes (v4InV6Prefix ++ [a, b, c, d]) := by
  have hfind := find_separator (s := string4 [a, b, c, d]) (Or.inl rfl) (by simp [string4_eq])
    (by
      intro x hx
      simp only [string4_eq, List.mem_append, List.mem_cons] at hx
      have hdec : ∀ u : UInt8, x ∈ decimal u.toNat → x ≠ '.' ∧ x ≠ ':' ∧ x ≠ '%' := by
        intro u hu
        obtain ⟨e, he, rfl⟩ := mem_decimal u.toNat_lt hu
        exact digit_ne he
      rcases hx with hx | hx | hx | hx | hx | hx | hx
      · exact Or.inr (hdec a hx)
      · exact Or.inl hx
      · exact Or.inr (hdec b hx)
      · exact Or.inl hx
      · exact Or.inr (hdec c hx)
      · exact Or.inl hx
      · exact Or.inr (hdec d hx))
  simp only [parseIP, String.toList_ofList, hfind, parseIPv4Fields_string4, Option.bind_some]

theorem parseIP_string6 {bs : List UInt8} (h : bs.length = 16) :
    parseIP (String.ofList (string6 (groups bs))) = ofBytes bs := by
  have hfind := find_separator (s := string6 (groups bs)) (Or.inr rfl) (colon_mem_string6 h)
    (by
      intro x hx
      rcases mem_string6 hx with rfl | ⟨d, hd, rfl⟩
      · exact Or.inl rfl
      · exact Or.inr (digit_ne hd))
  simp only [parseIP, String.toList_ofList, hfind, parseIPv6_string6 h, Option.bind_some]

/-- `net.ParseIP` inverts `IP.String`, up to the width of an IPv4 address. -/
theorem parseIP_string (ip : IP) : parseIP ip.string = some ip.to16 := by
  obtain ⟨bs, hsize⟩ := ip
  by_cases h4 : bs.length = 4
  · obtain ⟨a, b, c, d, rfl⟩ := List.length_eq_four.mp h4
    simp [IP.string, IP.to4, parseIP_string4, IP.to16, ofBytes, v4InV6Prefix]
  have h16 := hsize.resolve_left h4
  have hto16 : IP.to16 ⟨bs, hsize⟩ = ⟨bs, hsize⟩ := by simp [IP.to16, h4]
  rw [hto16]
  by_cases hmap : bs.take 12 = v4InV6Prefix
  · obtain ⟨a, b, c, d, htail⟩ :=
      List.length_eq_four.mp (show (bs.drop 12).length = 4 by simp [h16])
    have hbs : v4InV6Prefix ++ [a, b, c, d] = bs := by
      rw [← htail, ← hmap, List.take_append_drop]
    simp [IP.string, IP.to4, hmap, htail, parseIP_string4, hbs, ofBytes, h16]
  · simp [IP.string, IP.to4, hmap, parseIP_string6 h16, ofBytes, h16]

theorem to4_to16 (ip : IP) : ip.to16.to4 = ip.to4 := by
  by_cases h4 : ip.bytes.length = 4
  · have h12 : v4InV6Prefix.length = 12 := rfl
    simp only [IP.to16, IP.to4, h4, dif_pos, if_pos, List.length_append, h12]
    rw [if_neg (by decide), ← h12, List.take_left, if_pos rfl, List.drop_left]
  · simp [IP.to16, h4]

/-- The text of an address does not depend on its width. -/
@[simp] theorem string_to16 (ip : IP) : ip.to16.string = ip.string := by
  by_cases h4 : ip.bytes.length = 4
  · have hto4 : ip.to4 = some ip.bytes := by simp [IP.to4, h4]
    simp only [IP.string, to4_to16, hto4]
  · simp [IP.to16, h4]

end Caphv.Net
