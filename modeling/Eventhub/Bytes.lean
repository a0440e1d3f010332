import Mathlib

set_option autoImplicit false

namespace Eventhub

-- A C++ string is a finite byte sequence; char comparisons are comparisons of
-- the byte values. Literals in the source are plain ASCII.
abbrev Bytes := List UInt8

instance bytesLawful : LawfulBEq Bytes := inferInstance

def str (literal : String) : Bytes := literal.toList.map Char.toUInt8

-- What a function that takes a char pointer sees of a string.
def cstr (text : Bytes) : Bytes := text.takeWhile (fun c => c ≠ 0)

-- The "C" locale: bytes outside ASCII are in no class.
def isdigit (c : UInt8) : Bool := 48 ≤ c && c ≤ 57
def isalpha (c : UInt8) : Bool := (65 ≤ c && c ≤ 90) || (97 ≤ c && c ≤ 122)
def isalnum (c : UInt8) : Bool := isdigit c || isalpha c

def slash : UInt8 := 47
def plus : UInt8 := 43
def hash : UInt8 := 35
def hyphen : UInt8 := 45
def underscore : UInt8 := 95
def colon : UInt8 := 58

theorem every_byte (holds : UInt8 → Prop) (codes : ∀ code : Fin 256, holds (UInt8.ofNat code)) (c : UInt8) : holds c := by
  have one := codes ⟨c.toNat, c.toNat_lt⟩
  rwa [UInt8.ofNat_toNat] at one

example : str "/+#-_:" = [slash, plus, hash, hyphen, underscore, colon] := by decide

end Eventhub
