import Caphv.InfraTypes

namespace Caphv

def isRefChar (c : Char) : Bool :=
  ('a' ≤ c ∧ c ≤ 'z') ∨ ('0' ≤ c ∧ c ≤ '9') ∨ c = '-' ∨ c = '.' ∨ c = '_'

/-- `GetNamespacedName`: "namespace/name", or a plain name in the alternative namespace. -/
def getNamespacedName (name alternativeTargetNS : String) : Except String NamespacedName :=
  let cs := name.toList
  let head := cs.takeWhile (· ≠ '/')
  match cs.dropWhile (· ≠ '/') with
  | [] =>
    if head ≠ [] ∧ head.all isRefChar then .ok ⟨alternativeTargetNS, name⟩
    else .error "malformed reference, should be <NAMESPACE>/<NAME>"
  | _ :: tail =>
    if head ≠ [] ∧ head.all isRefChar ∧ tail ≠ [] ∧ tail.all isRefChar then
      .ok ⟨String.ofList head, String.ofList tail⟩
    else .error "malformed reference, should be <NAMESPACE>/<NAME>"

structure VMImage where
  ns : String
  name : String
  displayName : String
  storageClassName : String
  deriving DecidableEq

def storageClassForImage (image : VMImage) : String :=
  if image.storageClassName ≠ "" then image.storageClassName else "longhorn-" ++ image.name

def findImage (images : List VMImage) (ref : NamespacedName) : Except String VMImage :=
  match images.find? fun image => image.displayName = ref.name ∨ image.name = ref.name with
  | some image => .ok image
  | none => .error ("VM image " ++ ref.name ++ " not found in namespace " ++ ref.ns ++
      " (searched by display name and resource name)")

structure PVCTemplate where
  name : String
  ns : String
  storage : String
  storageClassName : String
  imageID : Option String
  deriving DecidableEq

def diskPrefix (vmName : String) : String := vmName ++ "-disk-"

def pvcName (vmName : String) (i : ℕ) (randomID : String) : String :=
  diskPrefix vmName ++ toString i ++ "-" ++ randomID

def cloudInitSecretName (machineName : String) : String := machineName ++ "-cloud-init"

theorem cloudInitSecretName_injective : Function.Injective cloudInitSecretName := by
  intro a b h
  have hl : a.toList ++ "-cloud-init".toList = b.toList ++ "-cloud-init".toList := by
    simpa [cloudInitSecretName] using congrArg String.toList h
  exact String.toList_inj.mp (List.append_cancel_right hl)

def cloudInitBase : String :=
  "package_update: true\npackages:\n  - qemu-guest-agent\n  - iptables\nruncmd:\n" ++
  "  - - systemctl\n    - enable\n    - --now\n    - qemu-guest-agent.service"

def cloudInitSSHSection (publicKey : String) : String :=
  "\nssh_authorized_keys:\n  - " ++ publicKey ++ "\n"

/-- The entry of one interface in `buildNetworkDataStatic`; only the first is static. -/
def networkDataEntry (netCfg : NetworkConfig) (subnetMask : String) (i : ℕ) : String :=
  "  - type: physical\n    name: eth" ++ toString i ++ "\n    subnets:\n" ++
    if i = 0 then
      "      - type: static\n        address: " ++ netCfg.address ++ "\n        netmask: " ++
        subnetMask ++ "\n        gateway: " ++ netCfg.gateway ++ "\n"
    else "      - type: dhcp\n"

def networkDataItems (items : List String) : String :=
  String.join (items.map fun item => "      - " ++ item ++ "\n")

def buildNetworkDataStatic (networks : List String) (netCfg : NetworkConfig)
    (vmNetCfg : Option VMNetworkConfig) : String :=
  let subnetMask := (vmNetCfg.map VMNetworkConfig.subnetMask).getD "255.255.0.0"
  "version: 1\nconfig:\n" ++
    String.join ((List.range networks.length).map (networkDataEntry netCfg subnetMask)) ++
    if netCfg.dnsServers ≠ [] then
      "  - type: nameserver\n    address:\n" ++ networkDataItems netCfg.dnsServers ++
        if netCfg.dnsSearch ≠ [] then "    search:\n" ++ networkDataItems netCfg.dnsSearch else ""
    else ""

def dhclientScriptLines : List String :=
  ["#!/bin/bash",
   "case \"$reason\" in",
   "  PREINIT)",
   "    ip link set dev $interface up",
   "    ;;",
   "  BOUND|RENEW|REBIND|REBOOT)",
   "    ip addr flush dev $interface 2>/dev/null",
   "    IFS=. read -r a b c d <<< \"$new_subnet_mask\"",
   "    prefix=0",
   "    for octet in $a $b $c $d; do",
   "      while [ $octet -gt 0 ]; do",
   "        prefix=$((prefix + (octet & 1)))",
   "        octet=$((octet >> 1))",
   "      done",
   "    done",
   "    ip addr add $new_ip_address/$prefix dev $interface",
   "    if [ -n \"$new_routers\" ]; then",
   "      ip route add default via $new_routers dev $interface 2>/dev/null",
   "    fi",
   "    if [ -n \"$new_domain_name_servers\" ]; then",
   "      : > /etc/resolv.conf",
   "      for dns in $new_domain_name_servers; do",
   "        echo \"nameserver $dns\" >> /etc/resolv.conf",
   "      done",
   "    fi",
   "    ;;",
   "esac"]

/-- `buildDHCPCloudInit`: the script first, then one `dhclient` call for each interface. -/
def buildDHCPCloudInit (networks : List String) : String :=
  let scriptPath := "/usr/local/bin/dhclient-script-caphv.sh"
  "bootcmd:\n  - |\n    cat > " ++ scriptPath ++ " << 'DHCSCRIPT'\n" ++
    String.join (dhclientScriptLines.map fun line => "    " ++ line ++ "\n") ++
    "    DHCSCRIPT\n    chmod +x " ++ scriptPath ++ "\n" ++
    String.join ((List.range networks.length).map fun i =>
      "  - ['dhclient', '-1', '-sf', '" ++ scriptPath ++ "', '-lf', '/tmp/dhclient-eth" ++
        toString i ++ ".lease', '-pf', '/tmp/dhclient-eth" ++ toString i ++ ".pid', 'eth" ++
        toString i ++ "']\n")

structure CloudInitSecret where
  userdata : String
  networkdata : Option String
  deriving DecidableEq

inductive RunStrategy where
  | always
  | rerunOnFailure
  | once
  | manual
  | halted
  deriving DecidableEq

/-- What `isVMRunning` reads of a KubeVirt VM. -/
structure VMRunState where
  running : Option Bool
  runStrategy : Option RunStrategy
  statusReady : Bool
  deriving DecidableEq

/-- `isVMRunning`, with KubeVirt's `RunStrategy` inlined: setting both fields is an error,
and the status decides. -/
def isVMRunning (vm : VMRunState) : Bool :=
  match vm.running, vm.runStrategy with
  | some _, some _ => vm.statusReady
  | none, some strategy => strategy = .always ∨ strategy = .rerunOnFailure ∨ strategy = .once
  | running, none => running = some true

end Caphv
