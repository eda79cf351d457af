import Caphv.ApiObjects

namespace Caphv

def maximumLabelLength : ℕ := 63

/-- A rune after `strings.ToLower` and the replacement of everything outside `[a-z0-9-]`.
Besides A to Z, only U+0130 and U+212A have a lower case in that set. -/
def nameRune (c : Char) : Char :=
  if c.isUpper then c.toLower
  else if c.isLower || c.isDigit || c = '-' then c
  else if c = Char.ofNat 0x130 then 'i'
  else if c = Char.ofNat 0x212A then 'k'
  else '-'

def trimDashes (name : List Char) : List Char :=
  ((name.dropWhile (· = '-')).reverse.dropWhile (· = '-')).reverse

/-- The name starts with a letter, or gets one. -/
def withLeadingLetter : List Char → List Char
  | [] => []
  | c :: cs => if c.isLower then c :: cs else 'a' :: '-' :: c :: cs

def generateRFC1035Name (nameComponents : List String) : String :=
  let name := (['-'].intercalate (nameComponents.map String.toList)).map nameRune
  String.ofList ((withLeadingLetter (trimDashes name)).take maximumLabelLength)

namespace ObjectKey

def lbName (k : ObjectKey) : String := generateRFC1035Name [k.ns, k.name, "lb"]

def lbPoolName (k : ObjectKey) : String := generateRFC1035Name [k.ns, k.name, "ippool"]

def vmPoolName (k : ObjectKey) : String := generateRFC1035Name [k.ns, k.name, "vm-ippool"]

end ObjectKey

end Caphv
