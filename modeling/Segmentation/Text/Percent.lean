import Segmentation.Text.Hex

namespace Segmentation.Text.Percent

def decode : List UInt8 → List UInt8
  | 0x25 :: high :: low :: rest =>
    match Hex.number? [Char.ofUInt8 high, Char.ofUInt8 low] with
    | some n => UInt8.ofNat n :: decode rest
    | none => 0x25 :: decode (high :: low :: rest)
  | b :: rest => b :: decode rest
  | [] => []

def bytes (s : List Char) : List UInt8 :=
  decode (String.ofList s).toUTF8.data.toList

def text? (bytes : List UInt8) : Option String :=
  String.fromUTF8? ⟨bytes.toArray⟩

/-- The text that a text stands for; none where the bytes are not UTF-8. -/
def decodeText? (s : List Char) : Option String :=
  text? (bytes s)

def firstChar? (bytes : List UInt8) : Option (Char × Nat) :=
  [1, 2, 3, 4].findSome? fun count =>
    match (text? (bytes.take count)).map String.toList with
    | some [c] => some (c, count)
    | _ => none

/-- The characters that bytes write; a byte that belongs to none stands for U+FFFD. -/
def lenient : List UInt8 → List Char
  | [] => []
  | b :: rest =>
    match firstChar? (b :: rest) with
    | some (c, count) => c :: lenient (rest.drop (count - 1))
    | none => Char.ofNat 0xFFFD :: lenient rest
termination_by bytes => bytes.length

/-- A part of a form: here `+` is a space, and every text stands for one. -/
def decodeForm (s : List Char) : String :=
  String.ofList (lenient (bytes (s.map fun c => if c = '+' then ' ' else c)))

end Segmentation.Text.Percent
