import Mathlib.Data.List.Basic
import Mathlib.Data.UInt

namespace Caphv.Net

/-- Go's `net.IP`: four or sixteen bytes. The nil address is `none` where it can occur. -/
structure IP where
  bytes : List UInt8
  size : bytes.length = 4 ∨ bytes.length = 16
  deriving DecidableEq

def v4InV6Prefix : List UInt8 := [0, 0, 0, 0, 0, 0, 0, 0, 0, 0, 0xff, 0xff]

/-- `IP.To4`: the last four bytes of an IPv4 or IPv4-mapped address. -/
def IP.to4 (ip : IP) : Option (List UInt8) :=
  if ip.bytes.length = 4 then some ip.bytes
  else if ip.bytes.take 12 = v4InV6Prefix then some (ip.bytes.drop 12)
  else none

def IP.to16 (ip : IP) : IP :=
  if h : ip.bytes.length = 4 then ⟨v4InV6Prefix ++ ip.bytes, by simp [v4InV6Prefix, h]⟩ else ip

def ofBytes (bs : List UInt8) : Option IP :=
  if h : bs.length = 4 ∨ bs.length = 16 then some ⟨bs, h⟩ else none

def digit (n : ℕ) : Char := Char.ofNat (if n < 10 then 48 + n else 87 + n)

def digitValue (c : Char) : Option ℕ :=
  let n := c.toNat
  if 48 ≤ n ∧ n ≤ 57 then some (n - 48)
  else if 97 ≤ n ∧ n ≤ 102 then some (n - 87)
  else if 65 ≤ n ∧ n ≤ 70 then some (n - 55)
  else none

def decimalValue (c : Char) : Option ℕ := (digitValue c).filter (· < 10)

def decimal (n : ℕ) : List Char :=
  (if 100 ≤ n then [digit (n / 100)] else []) ++
    (if 10 ≤ n then [digit (n / 10 % 10)] else []) ++ [digit (n % 10)]

def hex (n : ℕ) : List Char :=
  (if 0x1000 ≤ n then [digit (n / 0x1000)] else []) ++
    (if 0x100 ≤ n then [digit (n / 0x100 % 16)] else []) ++
    (if 0x10 ≤ n then [digit (n / 0x10 % 16)] else []) ++ [digit (n % 16)]

def string4 (bs : List UInt8) : List Char :=
  List.intercalate ['.'] (bs.map fun b => decimal b.toNat)

def groups : List UInt8 → List ℕ
  | a :: b :: bs => (a.toNat * 256 + b.toNat) :: groups bs
  | _ => []

def zeroRunAt (gs : List ℕ) (i : ℕ) : ℕ := ((gs.drop i).takeWhile (· = 0)).length

/-- The first longest run of at least two zero groups, as start and length; length 0 if none. -/
def zeroRun (gs : List ℕ) : ℕ × ℕ :=
  (List.range 8).foldl
    (fun best i =>
      if 2 ≤ zeroRunAt gs i ∧ best.2 < zeroRunAt gs i then (i, zeroRunAt gs i) else best)
    (8, 0)

def render (gs : List ℕ) : List Char := List.intercalate [':'] (gs.map hex)

def string6 (gs : List ℕ) : List Char :=
  if (zeroRun gs).2 = 0 then render gs
  else render (gs.take (zeroRun gs).1) ++ ':' :: ':' ::
    render (gs.drop ((zeroRun gs).1 + (zeroRun gs).2))

def IP.string (ip : IP) : String :=
  String.ofList <| match ip.to4 with
    | some bs => string4 bs
    | none => string6 (groups ip.bytes)

/-- `netip.parseIPv4Fields`: four decimal fields up to 255 without leading zeros. -/
def parseIPv4Fields : List Char → ℕ → ℕ → List UInt8 → Option (List UInt8)
  | [], val, digLen, fields =>
    if fields.length = 3 ∧ 0 < digLen then some (fields ++ [UInt8.ofNat val]) else none
  | c :: cs, val, digLen, fields =>
    match decimalValue c with
    | some d =>
      if digLen = 1 ∧ val = 0 then none
      else if 255 < val * 10 + d then none
      else parseIPv4Fields cs (val * 10 + d) (digLen + 1) fields
    | none =>
      if c = '.' then
        if digLen = 0 ∨ fields.length = 3 then none
        else parseIPv4Fields cs 0 0 (fields ++ [UInt8.ofNat val])
      else none

/-- Reads at most four hexadecimal digits: their number, their value and what follows. -/
def parseHexField : List Char → ℕ → ℕ → Option (ℕ × ℕ × List Char)
  | [], off, acc => some (off, acc, [])
  | c :: cs, off, acc =>
    match digitValue c with
    | some d => if 3 < off then none else parseHexField cs (off + 1) (acc * 16 + d)
    | none => some (off, acc, c :: cs)

def groupBytes (n : ℕ) : List UInt8 := [UInt8.ofNat (n / 256), UInt8.ofNat n]

/-- The loop of `netip.parseIPv6`: the bytes read so far and the place of the ellipsis. -/
def parseGroups : ℕ → List Char → List UInt8 → Option ℕ → Option (List UInt8 × Option ℕ)
  | 0, _, _, _ => none
  | fuel + 1, s, bs, ell =>
    if 16 ≤ bs.length then (if s = [] then some (bs, ell) else none)
    else match parseHexField s 0 0 with
    | none => none
    | some (off, acc, rest) =>
      if off = 0 then none
      else match rest with
      | [] => some (bs ++ groupBytes acc, ell)
      | '.' :: _ =>
        -- trailing dotted IPv4 part
        if (ell = none ∧ bs.length ≠ 12) ∨ 12 < bs.length then none
        else (parseIPv4Fields s 0 0 []).map fun f => (bs ++ f, ell)
      | ':' :: [] => none
      | ':' :: ':' :: rest' =>
        if ell ≠ none then none
        else if rest' = [] then some (bs ++ groupBytes acc, some (bs.length + 2))
        else parseGroups fuel rest' (bs ++ groupBytes acc) (some (bs.length + 2))
      | ':' :: rest' => parseGroups fuel rest' (bs ++ groupBytes acc) ell
      | _ => none

def expand : List UInt8 × Option ℕ → Option (List UInt8)
  | (bs, ell) =>
    if bs.length < 16 then
      ell.map fun e => bs.take e ++ List.replicate (16 - bs.length) 0 ++ bs.drop e
    else if ell = none then some bs
    else none

def parseIPv6 (s : List Char) : Option (List UInt8) :=
  if '%' ∈ s then none
  else match s with
  | [':', ':'] => some (List.replicate 16 0)
  | ':' :: ':' :: rest => (parseGroups 9 rest [] (some 0)).bind expand
  | _ => (parseGroups 9 s [] none).bind expand

/-- `net.ParseIP`: the sixteen-byte form, `none` for the nil result. -/
def parseIP (s : String) : Option IP :=
  match s.toList.find? fun c => c = '.' ∨ c = ':' ∨ c = '%' with
  | some '.' => (parseIPv4Fields s.toList 0 0 []).bind fun f => ofBytes (v4InV6Prefix ++ f)
  | some ':' => (parseIPv6 s.toList).bind ofBytes
  | _ => none

example : (parseIP "10.0.0.1").map IP.string = some "10.0.0.1" := by decide +kernel
example : (parseIP "FD00:0:0::0a:1").map IP.string = some "fd00::a:1" := by decide +kernel
example : (parseIP "::ffff:192.0.2.1").map IP.string = some "192.0.2.1" := by decide +kernel
example : parseIP "10.0.0.01" = none := by decide +kernel
example : parseIP "1:2:3:4:5:6:7:8::" = none := by decide +kernel

end Caphv.Net
