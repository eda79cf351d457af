import Caphv.Splitting
import Caphv.VMDefinition

namespace Caphv

open Splitting

structure StaticNetwork where
  networks : List String
  netCfg : NetworkConfig
  vmNetCfg : Option VMNetworkConfig

namespace StaticNetwork

def subnetMask (x : StaticNetwork) : String :=
  (x.vmNetCfg.map VMNetworkConfig.subnetMask).getD "255.255.0.0"

def networkData (x : StaticNetwork) : String :=
  buildNetworkDataStatic x.networks x.netCfg x.vmNetCfg

end StaticNetwork

def SingleLine (text : String) : Prop := '\n' ∉ text.toList

instance (text : String) : Decidable (SingleLine text) := inferInstanceAs (Decidable (¬ _))

def staticLines (netCfg : NetworkConfig) (subnetMask : String) : List String :=
  ["      - type: static", "        address: " ++ netCfg.address,
    "        netmask: " ++ subnetMask, "        gateway: " ++ netCfg.gateway]

def interfaceLines (i : ℕ) (subnet : List String) : List String :=
  ("    name: eth" ++ toString i) :: "    subnets:" :: subnet

def entryLines (netCfg : NetworkConfig) (subnetMask : String) (i : ℕ) : List String :=
  "  - type: physical" :: interfaceLines i
    (if i = 0 then staticLines netCfg subnetMask else ["      - type: dhcp"])

def itemLines (items : List String) : List String := items.map fun item => "      - " ++ item

def searchLines (dnsSearch : List String) : List String :=
  if dnsSearch = [] then [] else "    search:" :: itemLines dnsSearch

def nameserverLines (netCfg : NetworkConfig) : List String :=
  if netCfg.dnsServers = [] then []
  else "  - type: nameserver" :: "    address:" ::
    (itemLines netCfg.dnsServers ++ searchLines netCfg.dnsSearch)

namespace StaticNetwork

def lines (x : StaticNetwork) : List String :=
  "version: 1" :: "config:" ::
    ((List.range x.networks.length).flatMap (entryLines x.netCfg x.subnetMask) ++
      nameserverLines x.netCfg)

end StaticNetwork

def chars (lines : List String) : List Char := endEach '\n' (lines.map String.toList)

@[simp] theorem chars_nil : chars [] = [] := rfl

@[simp] theorem chars_cons (line : String) (lines : List String) :
    chars (line :: lines) = line.toList ++ '\n' :: chars lines := endEach_cons _ _ _

@[simp] theorem chars_append (a b : List String) : chars (a ++ b) = chars a ++ chars b := by
  simp [chars, endEach]

theorem chars_flatMap {α : Type} (f : α → List String) (xs : List α) :
    chars (xs.flatMap f) = xs.flatMap fun x => chars (f x) := by
  induction xs with
  | nil => rfl
  | cons x xs ih => rw [List.flatMap_cons, chars_append, ih, List.flatMap_cons]

theorem toList_networkDataEntry (netCfg : NetworkConfig) (subnetMask : String) (i : ℕ) :
    (networkDataEntry netCfg subnetMask i).toList = chars (entryLines netCfg subnetMask i) := by
  unfold networkDataEntry entryLines interfaceLines staticLines
  split_ifs
  · simp
  · simp

theorem toList_networkDataItems (items : List String) :
    (networkDataItems items).toList = chars (itemLines items) := by
  simp [networkDataItems, itemLines, chars, endEach, List.flatMap_map, String.toList_join]

/-- The network data is the text of its lines. -/
theorem StaticNetwork.toList_networkData (x : StaticNetwork) :
    x.networkData.toList = chars x.lines := by
  have hentries : (String.join ((List.range x.networks.length).map
      (networkDataEntry x.netCfg x.subnetMask))).toList =
        chars ((List.range x.networks.length).flatMap (entryLines x.netCfg x.subnetMask)) := by
    rw [String.toList_join, List.flatMap_map, chars_flatMap]
    simp only [toList_networkDataEntry]
  unfold networkData buildNetworkDataStatic lines nameserverLines searchLines
  rw [show (x.vmNetCfg.map VMNetworkConfig.subnetMask).getD "255.255.0.0" = x.subnetMask from rfl]
  dsimp only
  by_cases hservers : x.netCfg.dnsServers = []
  · simp [hservers, hentries]
  · by_cases hsearch : x.netCfg.dnsSearch = []
    · simp [hservers, hsearch, hentries, toList_networkDataItems]
    · simp [hservers, hsearch, hentries, toList_networkDataItems]

@[mk_iff]
structure StaticNetwork.Valid (x : StaticNetwork) : Prop where
  networks : x.networks ≠ []
  address : SingleLine x.netCfg.address
  subnetMask : SingleLine x.subnetMask
  gateway : SingleLine x.netCfg.gateway
  dnsServers : ∀ server ∈ x.netCfg.dnsServers, SingleLine server
  dnsSearch : ∀ domain ∈ x.netCfg.dnsSearch, SingleLine domain

instance (x : StaticNetwork) : Decidable x.Valid := decidable_of_iff' _ (StaticNetwork.valid_iff x)

section ReadBack

variable {x y : StaticNetwork}

theorem singleLine_append {a b : String} (ha : SingleLine a) (hb : SingleLine b) :
    SingleLine (a ++ b) := by
  simp only [SingleLine, String.toList_append, List.mem_append, not_or]
  exact ⟨ha, hb⟩

theorem singleLine_entryLines (hx : x.Valid) (i : ℕ) :
    ∀ line ∈ entryLines x.netCfg x.subnetMask i, SingleLine line := by
  have hname := singleLine_append (a := "    name: eth") (by decide) (notMem_toString (by decide) i)
  have hstatic : ∀ line ∈ staticLines x.netCfg x.subnetMask, SingleLine line := by
    simp only [staticLines, List.mem_cons, List.not_mem_nil, or_false, forall_eq_or_imp, forall_eq]
    exact ⟨by decide, singleLine_append (by decide) hx.address,
      singleLine_append (by decide) hx.subnetMask, singleLine_append (by decide) hx.gateway⟩
  simp only [entryLines, interfaceLines, List.mem_cons, forall_eq_or_imp]
  refine ⟨by decide, hname, by decide, ?_⟩
  split_ifs
  · exact hstatic
  · decide

theorem singleLine_itemLines {items : List String} (h : ∀ item ∈ items, SingleLine item) :
    ∀ line ∈ itemLines items, SingleLine line := by
  intro line hline
  obtain ⟨item, hitem, rfl⟩ := List.mem_map.mp hline
  exact singleLine_append (by decide) (h item hitem)

theorem singleLine_nameserverLines (hx : x.Valid) :
    ∀ line ∈ nameserverLines x.netCfg, SingleLine line := by
  have hsearch : ∀ line ∈ searchLines x.netCfg.dnsSearch, SingleLine line := by
    unfold searchLines
    split_ifs
    · exact nofun
    · simp only [List.mem_cons, forall_eq_or_imp]
      exact ⟨by decide, singleLine_itemLines hx.dnsSearch⟩
  unfold nameserverLines
  split_ifs
  · exact nofun
  · simp only [List.mem_cons, List.mem_append, forall_eq_or_imp]
    exact ⟨by decide, by decide,
      fun line hline => hline.elim (singleLine_itemLines hx.dnsServers line) (hsearch line)⟩

theorem singleLine_lines (hx : x.Valid) : ∀ line ∈ x.lines, SingleLine line := by
  simp only [StaticNetwork.lines, List.mem_cons, List.mem_append, List.mem_flatMap,
    forall_eq_or_imp]
  refine ⟨by decide, by decide, fun line hline => ?_⟩
  rcases hline with ⟨i, -, hline⟩ | hline
  · exact singleLine_entryLines hx i line hline
  · exact singleLine_nameserverLines hx line hline

theorem lines_eq (hx : x.Valid) (hy : y.Valid) (h : y.networkData = x.networkData) :
    y.lines = x.lines := by
  -- A text of lines without line breaks splits in one way.
  have hchars : chars y.lines = chars x.lines := by
    rw [← y.toList_networkData, ← x.toList_networkData, h]
  have hmarks : ∀ {z : StaticNetwork}, z.Valid → ∀ l ∈ z.lines.map String.toList, '\n' ∉ l := by
    intro z hz l hl
    obtain ⟨line, hline, rfl⟩ := List.mem_map.mp hl
    exact singleLine_lines hz line hline
  exact List.map_injective_iff.mpr (fun _ _ => String.toList_inj.mp)
    (endEach_inj (hmarks hy) (hmarks hx) hchars)

def dhcpLines (n : ℕ) : List String :=
  (List.range n).flatMap fun i =>
    "  - type: physical" :: interfaceLines (i + 1) ["      - type: dhcp"]

theorem length_dhcpLines (n : ℕ) : (dhcpLines n).length = 4 * n := by
  simp [dhcpLines, interfaceLines, List.length_flatMap, Nat.mul_comm]

theorem lines_eq_cons (hx : x.networks ≠ []) :
    x.lines = "version: 1" :: "config:" :: "  - type: physical" ::
      interfaceLines 0 (staticLines x.netCfg x.subnetMask) ++
        (dhcpLines (x.networks.length - 1) ++ nameserverLines x.netCfg) := by
  obtain ⟨n, hn⟩ := Nat.exists_eq_succ_of_ne_zero (mt List.length_eq_zero_iff.mp hx)
  rw [StaticNetwork.lines, hn, List.range_succ_eq_map, List.flatMap_cons, List.flatMap_map]
  rfl

theorem ne_of_mem_dhcpLines {n : ℕ} {line : String} (h : line ∈ dhcpLines n) :
    line ≠ "  - type: nameserver" := by
  simp only [dhcpLines, interfaceLines, List.mem_flatMap, List.mem_cons, List.not_mem_nil,
    or_false] at h
  obtain ⟨i, -, rfl | rfl | rfl | rfl⟩ := h
  · decide
  · intro hname
    simpa using congrArg String.toList hname
  · decide
  · decide

theorem head?_nameserverLines {netCfg : NetworkConfig} {line : String}
    (h : line ∈ (nameserverLines netCfg).head?) : ¬ line ≠ "  - type: nameserver" := by
  unfold nameserverLines at h
  split_ifs at h
  · cases h
  · exact not_not.mpr (Option.some.inj h).symm

theorem head?_searchLines {dnsSearch : List String} {line : String}
    (h : line ∈ (searchLines dnsSearch).head?) : ¬ ∃ item, line = "      - " ++ item := by
  unfold searchLines at h
  split_ifs at h
  · cases h
  · obtain rfl := Option.some.inj h
    rintro ⟨item, hitem⟩
    simpa using congrArg String.toList hitem

theorem itemLines_inj {a b : List String} (h : itemLines a = itemLines b) : a = b :=
  List.map_injective_iff.mpr (fun _ _ hitem => by simpa using hitem) h

theorem searchLines_inj {a b : List String} (h : searchLines a = searchLines b) : a = b := by
  unfold searchLines at h
  split_ifs at h with ha hb hb
  · rw [ha, hb]
  · exact itemLines_inj (List.cons.inj h).2

theorem nameserverLines_inj {a b : NetworkConfig} (h : nameserverLines a = nameserverLines b) :
    a.dnsServers = b.dnsServers ∧ (b.dnsServers ≠ [] → a.dnsSearch = b.dnsSearch) := by
  unfold nameserverLines at h
  split_ifs at h with ha hb hb
  · exact ⟨ha.trans hb.symm, fun hne => absurd hb hne⟩
  · have hitem : ∀ items : List String, ∀ line ∈ itemLines items,
        ∃ item, line = "      - " ++ item := by
      intro items line hline
      obtain ⟨item, -, rfl⟩ := List.mem_map.mp hline
      exact ⟨item, rfl⟩
    -- The items of the servers end where the search domains begin, or where the text ends.
    have htail := (List.cons.inj (List.cons.inj h).2).2
    obtain ⟨hservers, hsearch⟩ := append_inj_of_run (hitem _) (hitem _)
      (fun _ => head?_searchLines) (fun _ => head?_searchLines) htail
    exact ⟨itemLines_inj hservers, fun _ => searchLines_inj hsearch⟩

/-- What equal texts have in common: everything but the search domains, and those as well when
there is a name server. -/
theorem fields_eq (hx : x.Valid) (hy : y.Valid) (h : y.networkData = x.networkData) :
    (y.networks.length = x.networks.length ∧ y.subnetMask = x.subnetMask ∧
      y.netCfg.address = x.netCfg.address ∧ y.netCfg.gateway = x.netCfg.gateway ∧
      y.netCfg.dnsServers = x.netCfg.dnsServers) ∧
    (x.netCfg.dnsServers ≠ [] → y.netCfg.dnsSearch = x.netCfg.dnsSearch) := by
  have hlines := lines_eq hx hy h
  rw [lines_eq_cons hx.networks, lines_eq_cons hy.networks] at hlines
  simp only [interfaceLines, staticLines, List.cons_append, List.nil_append, List.cons.injEq,
    true_and, String.append_right_inj] at hlines
  obtain ⟨haddress, hmask, hgateway, hrest⟩ := hlines
  -- The entry of the name servers ends the run of interfaces.
  obtain ⟨hdhcp, hns⟩ := append_inj_of_run (p := (· ≠ "  - type: nameserver"))
    (fun _ => ne_of_mem_dhcpLines) (fun _ => ne_of_mem_dhcpLines)
    (fun _ => head?_nameserverLines) (fun _ => head?_nameserverLines) hrest
  have hlength := congrArg List.length hdhcp
  rw [length_dhcpLines, length_dhcpLines] at hlength
  have hxpos := List.length_pos_iff.mpr hx.networks
  have hypos := List.length_pos_iff.mpr hy.networks
  obtain ⟨hservers, hsearch⟩ := nameserverLines_inj hns
  exact ⟨⟨by omega, hmask, haddress, hgateway, hservers⟩, hsearch⟩

def StaticNetwork.withSearch (x : StaticNetwork) (dnsSearch : List String) : StaticNetwork :=
  { x with netCfg := { x.netCfg with dnsSearch := dnsSearch } }

/-- Without a name server the search domains do not show. -/
theorem networkData_withSearch (h : x.netCfg.dnsServers = []) (dnsSearch : List String) :
    (x.withSearch dnsSearch).networkData = x.networkData := by
  have hentry : networkDataEntry (x.withSearch dnsSearch).netCfg = networkDataEntry x.netCfg := rfl
  have hservers : (x.withSearch dnsSearch).netCfg.dnsServers = [] := h
  unfold StaticNetwork.networkData buildNetworkDataStatic
  rw [hentry, hservers, h]
  rfl

/-- From the network data of a machine everything can be read back but the search domains; and
those exactly if there is a name server. -/
theorem networkData_read_back_iff (hx : x.Valid) :
    (∀ y : StaticNetwork, y.Valid → y.networkData = x.networkData →
      y.networks.length = x.networks.length ∧ y.subnetMask = x.subnetMask ∧
      y.netCfg.address = x.netCfg.address ∧ y.netCfg.gateway = x.netCfg.gateway ∧
      y.netCfg.dnsServers = x.netCfg.dnsServers) ∧
    ((∀ y : StaticNetwork, y.Valid → y.networkData = x.networkData →
      y.netCfg.dnsSearch = x.netCfg.dnsSearch) ↔ x.netCfg.dnsServers ≠ []) := by
  refine ⟨fun y hy h => (fields_eq hx hy h).1, fun hread hnone => ?_,
    fun hsome y hy h => (fields_eq hx hy h).2 hsome⟩
  -- Any other list of search domains gives the same text.
  have hother : ∀ domains : List String, (∀ domain ∈ domains, SingleLine domain) →
      domains = x.netCfg.dnsSearch := fun domains hd =>
    hread (x.withSearch domains)
      ⟨hx.networks, hx.address, hx.subnetMask, hx.gateway, hx.dnsServers, hd⟩
      (networkData_withSearch hnone domains)
  have hempty := hother [] nofun
  have hlocal := hother ["local"] (by decide)
  rw [← hempty] at hlocal
  cases hlocal

end ReadBack

namespace StaticSample

def withServers (dnsServers : List String) : StaticNetwork where
  networks := ["vlan1", "vlan2"]
  netCfg := ⟨"10.0.0.5", "10.0.0.1", dnsServers, ["cluster.local"]⟩
  vmNetCfg := none

end StaticSample

open StaticSample in
theorem networkData_read_back_sample :
    (withServers ["10.0.0.1"]).Valid ∧
    ∀ y : StaticNetwork, y.Valid → y.networkData = (withServers ["10.0.0.1"]).networkData →
      y.netCfg.dnsSearch = ["cluster.local"] := by
  have hvalid : (withServers ["10.0.0.1"]).Valid := by decide
  exact ⟨hvalid, (networkData_read_back_iff hvalid).2.mpr (by decide)⟩

open StaticSample in
/-- The search domains of a machine without name servers are dropped. -/
theorem search_domains_lost :
    (withServers []).Valid ∧ ((withServers []).withSearch []).Valid ∧
    ((withServers []).withSearch []).networkData = (withServers []).networkData ∧
    ((withServers []).withSearch []).netCfg.dnsSearch ≠ (withServers []).netCfg.dnsSearch := by
  decide +kernel

end Caphv
