import Caphv.NetIP

namespace Caphv

open Net

inductive GoResult (α : Type) where
  | ok (a : α)
  | err (msg : String)
  | panic
  deriving DecidableEq

namespace GoResult

instance : Monad GoResult where
  pure := ok
  bind r f := match r with
    | ok a => f a
    | err msg => err msg
    | panic => panic

def wrap {α : Type} (msg : String) : GoResult α → GoResult α
  | ok a => ok a
  | err e => err (msg ++ ": " ++ e)
  | panic => panic

def isOk {α : Type} : GoResult α → Bool
  | ok _ => true
  | _ => false

end GoResult

/-- `net.IPNet`; address and mask have the same length. -/
structure IPNet where
  ip : IP
  mask : List UInt8
  size : mask.length = ip.bytes.length
  deriving DecidableEq

namespace IPNet

def combine (n : IPNet) (f : UInt8 → UInt8 → UInt8) : IP :=
  ⟨List.zipWith f n.ip.bytes n.mask, by
    rw [List.length_zipWith, n.size, Nat.min_self]
    exact n.ip.size⟩

def networkIP (n : IPNet) : IP := n.combine fun b m => b &&& m

def broadcastIP (n : IPNet) : IP := n.combine fun b m => b ||| ~~~m

def masked (n : IPNet) : IPNet where
  ip := n.networkIP
  mask := n.mask
  size := by simp [networkIP, combine, n.size]

def contains (n : IPNet) (ip : IP) : Bool :=
  let short (i : IP) := i.to4.getD i.bytes
  let nn := short n.ip
  let m := n.mask.drop (n.mask.length - nn.length)
  (short ip).length = nn.length ∧
    List.zipWith (· &&& ·) (short ip) m = List.zipWith (· &&& ·) nn m

def ones (n : IPNet) : ℕ :=
  (n.mask.map fun b => ((List.range 8).filter fun i => b.toNat.testBit i).length).sum

def string (n : IPNet) : String :=
  n.ip.string ++ "/" ++ toString (if n.ip.to4 ≠ none ∧ n.mask.length = 16 then n.ones - 96
    else n.ones)

end IPNet

def cidrMask (ones bits : ℕ) : List UInt8 :=
  (List.range (bits / 8)).map fun i =>
    UInt8.ofNat (256 - 2 ^ (8 - min 8 (ones - 8 * i)))

def dtoi (s : List Char) : Option ℕ :=
  if s = [] then none
  else s.foldlM (fun n c =>
    (decimalValue c).bind fun d => if 0xFFFFFF ≤ n * 10 + d then none else some (n * 10 + d)) 0

/-- `net.ParseCIDR`: the address and the network. -/
def parseCIDR (s : String) : Option (IP × IPNet) :=
  let addr := s.toList.takeWhile (· ≠ '/')
  match s.toList.dropWhile (· ≠ '/') with
  | [] => none
  | _ :: mask =>
    match parseIP (String.ofList addr), dtoi mask with
    | some ip, some n =>
      let bits := if ':' ∈ addr then 128 else 32
      let m := cidrMask n bits
      let bs := ip.bytes.drop (16 - bits / 8)
      if h : n ≤ bits ∧ m.length = bs.length ∧ (bs.length = 4 ∨ bs.length = 16) then
        some (ip, IPNet.masked ⟨⟨bs, h.2.2⟩, m, h.2.1⟩)
      else none
    | _, _ => none

def bytesToNat (bs : List UInt8) : ℕ := bs.foldl (fun n b => n * 256 + b.toNat) 0

/-- `lastIP`: the broadcast address, less one in byte 3 when the network reads as IPv4. -/
def lastIP (n : IPNet) : IP :=
  if n.ip.to4 = none then n.broadcastIP
  else ⟨n.broadcastIP.bytes.modify 3 (· - 1), by
    rw [List.length_modify]
    exact n.broadcastIP.size⟩

/-- `parseIP` of `ippool.go`: an optional address of the subnet. -/
def parseRangeIP (ipStr : String) (n : IPNet) (defaultIP : Option IP) : GoResult (Option IP) :=
  if ipStr = "" then .ok defaultIP
  else match parseIP ipStr with
  | none => .err ("invalid IP " ++ ipStr)
  | some ip =>
    if !n.contains ip then .err ("IP " ++ ipStr ++ " is out of subnet " ++ n.string)
    else if ip.to16 = n.networkIP.to16 then .err ("IP " ++ ipStr ++ " is the network address")
    else if ip.to16 = n.broadcastIP.to16 then
      .err ("IP " ++ ipStr ++ " is the broadcast address")
    else .ok (some ip)

structure PoolRange where
  subnet : String
  gateway : String
  rangeStart : String
  rangeEnd : String
  deriving DecidableEq

structure AllocatorRange where
  rangeStart : IP
  rangeEnd : IP
  subnet : IPNet
  gateway : Option IP
  deriving DecidableEq

/-- `MakeRange`; `nextIP` is `cnip.NextIP` of the CNI plugins. -/
def makeRange (nextIP : IP → GoResult IP) (r : PoolRange) : GoResult AllocatorRange :=
  match parseCIDR r.subnet with
  | none => .err ("invalid range &\x7bRangeStart:" ++ r.rangeStart ++ " RangeEnd:" ++ r.rangeEnd ++
      " Subnet:" ++ r.subnet ++ " Gateway:" ++ r.gateway ++ "\x7d")
  | some (ip, ipNet) => do
    let (defaultStart, defaultEnd, defaultGateway) ←
      if ipNet.mask = [0xff, 0xff, 0xff, 0xff] then
        pure (ip.to16, ip.to16, (none : Option IP))
      else do
        let next ← nextIP ipNet.ip
        pure (next.to16, (lastIP ipNet).to16, some next.to16)
    let start ← (parseRangeIP r.rangeStart ipNet (some defaultStart)).wrap
      ("invalid range start " ++ r.rangeStart)
    let end_ ← (parseRangeIP r.rangeEnd ipNet (some defaultEnd)).wrap
      ("invalid range end " ++ r.rangeEnd)
    let gateway ← (parseRangeIP r.gateway ipNet defaultGateway).wrap
      ("invalid gateway " ++ r.gateway)
    match start, end_ with
    | some start, some end_ =>
      if bytesToNat end_.bytes < bytesToNat start.bytes then
        pure ⟨end_, start, ipNet, gateway⟩
      else pure ⟨start, end_, ipNet, gateway⟩
    | none, _ => .err "invalid start IP address: <nil>"
    | _, none => .err "invalid end IP address: <nil>"

def AllocatorRange.summary (r : AllocatorRange) : String × String × Option String :=
  (r.rangeStart.string, r.rangeEnd.string, r.gateway.map IP.string)

namespace RangeSample

def nextIP (ip : IP) : GoResult IP :=
  .ok ⟨ip.bytes.modify (ip.bytes.length - 1) (· + 1), by
    rw [List.length_modify]
    exact ip.size⟩

end RangeSample

example : ((match makeRange RangeSample.nextIP ⟨"192.168.0.0/24", "", "", ""⟩ with
    | .ok r => some r.summary
    | _ => none) = some ("192.168.0.1", "192.168.0.254", some "192.168.0.1")) := by
  decide +kernel

example : ((match makeRange RangeSample.nextIP ⟨"10.0.0.7/32", "", "", ""⟩ with
    | .ok r => some r.summary
    | _ => none) = some ("10.0.0.7", "10.0.0.7", none)) := by
  decide +kernel

example : makeRange RangeSample.nextIP ⟨"10.0.0.0/24", "10.0.1.1", "", ""⟩ =
    .err "invalid gateway 10.0.1.1: IP 10.0.1.1 is out of subnet 10.0.0.0/24" := by
  decide +kernel

end Caphv
