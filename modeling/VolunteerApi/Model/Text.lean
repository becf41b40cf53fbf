import Mathlib.Data.List.Infix

/-!
# JavaScript string functions

`trim`, `toLowerCase`, `includes`, `startsWith` and `split` as the services call them.
`toLowerCase` maps the letters of the Cyrillic blocks and of Latin up to Extended-A, one code
point to one.  It leaves `İ` and the letters of all other blocks as they are.
-/

set_option autoImplicit false

namespace VolunteerApi

/-- The code points `String.prototype.trim` strips. -/
def isTrimmed (c : Char) : Bool :=
  let n := c.toNat
  (0x0009 ≤ n ∧ n ≤ 0x000d) ∨ n = 0x0020 ∨ n = 0x00a0 ∨ n = 0x1680 ∨
    (0x2000 ≤ n ∧ n ≤ 0x200a) ∨ n = 0x2028 ∨ n = 0x2029 ∨ n = 0x202f ∨ n = 0x205f ∨
    n = 0x3000 ∨ n = 0xfeff

def trim (text : String) : String :=
  String.ofList (((text.toList.dropWhile isTrimmed).reverse.dropWhile isTrimmed).reverse)

/-- The capital letters that stand right before their small ones. -/
def isCapitalOfPair (n : Nat) : Bool :=
  if n % 2 = 0 then
    (0x0100 ≤ n ∧ n ≤ 0x0136 ∧ n ≠ 0x0130) ∨ (0x014a ≤ n ∧ n ≤ 0x0176) ∨
      (0x0460 ≤ n ∧ n ≤ 0x0480) ∨ (0x048a ≤ n ∧ n ≤ 0x04be) ∨ (0x04d0 ≤ n ∧ n ≤ 0x052e)
  else
    (0x0139 ≤ n ∧ n ≤ 0x0147) ∨ (0x0179 ≤ n ∧ n ≤ 0x017d) ∨ (0x04c1 ≤ n ∧ n ≤ 0x04cd)

def lowerChar (c : Char) : Char :=
  let n := c.toNat
  if (0x0041 ≤ n ∧ n ≤ 0x005a) ∨ (0x00c0 ≤ n ∧ n ≤ 0x00de ∧ n ≠ 0x00d7) ∨
      (0x0410 ≤ n ∧ n ≤ 0x042f) then Char.ofNat (n + 0x20)
  else if 0x0400 ≤ n ∧ n ≤ 0x040f then Char.ofNat (n + 0x50)
  else if n = 0x0178 then Char.ofNat 0x00ff
  else if n = 0x04c0 then Char.ofNat 0x04cf
  else if isCapitalOfPair n then Char.ofNat (n + 1)
  else c

def toLowerCase (text : String) : String := String.ofList (text.toList.map lowerChar)

def includes (text part : String) : Bool := part.toList <:+: text.toList

def startsWith (text part : String) : Bool := part.toList.isPrefixOf text.toList

def split (text : String) (separator : Char) : List String :=
  (text.toList.splitOn separator).map String.ofList

/-- What a JavaScript condition takes for a text: neither `null` nor empty. -/
def truthy (text : Option String) : Option String := text.filter fun text => text ≠ ""

end VolunteerApi
