import EbsiDid.Encoding.Utf8

set_option autoImplicit false

/-!
Base 64 in the standard alphabet and in the one for URLs and file names.
-/
namespace EbsiDid.Base64

/-- The two last characters and the padding tell the alphabets apart. -/
structure Style where
  char62 : Char
  char63 : Char
  padded : Bool
deriving DecidableEq, Repr

def standard : Style := ⟨'+', '/', true⟩

/-- The alphabet for URLs, without padding. -/
def url : Style := ⟨'-', '_', false⟩

def Style.char (style : Style) (n : Nat) : Char :=
  if n < 26 then Char.ofNat (0x41 + n)
  else if n < 52 then Char.ofNat (0x61 + (n - 26))
  else if n < 62 then Char.ofNat (0x30 + (n - 52))
  else if n = 62 then style.char62
  else style.char63

def Style.pad (style : Style) (count : Nat) : List Char :=
  if style.padded then List.replicate count '=' else []

def encodeChars (style : Style) : Bytes → List Char
  | [] => []
  | [a] => [style.char (a.toNat / 4), style.char (a.toNat % 4 * 16)] ++ style.pad 2
  | [a, b] =>
      [style.char (a.toNat / 4), style.char (a.toNat % 4 * 16 + b.toNat / 16),
       style.char (b.toNat % 16 * 4)] ++ style.pad 1
  | a :: b :: c :: rest =>
      style.char (a.toNat / 4) :: style.char (a.toNat % 4 * 16 + b.toNat / 16)
        :: style.char (b.toNat % 16 * 4 + c.toNat / 64) :: style.char (c.toNat % 64)
        :: encodeChars style rest

def encode (style : Style) (bytes : Bytes) : String := String.ofList (encodeChars style bytes)

end EbsiDid.Base64
