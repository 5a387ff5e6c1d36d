import Segmentation.Configuration.Setting
import Segmentation.Decimal.Style
import Segmentation.Text.Ascii
import Segmentation.Text.Numeral
import Segmentation.Word

namespace Segmentation.Configuration.Setting

def truthWord? (s : String) : Option Bool :=
  match Text.lowerAscii s with
  | "true" | "on" | "yes" => some true
  | "false" | "off" | "no" => some false
  | _ => none

/-- A number is false when it is zero. -/
def bool? : Setting → Option Bool
  | .bool b => some b
  | .int n => some (n != 0)
  | .float x => some (x != 0.0)
  | .text "1" => some true
  | .text "0" => some false
  | .text s => truthWord? s
  | .array _ | .section _ => none

/-- The nearest whole number in range, a half going away from zero; nothing comes nearest to
nothing. -/
def nearestNat (x : Float) : Nat :=
  match Binary64.round? x with
  | some n => min n.toNat Word.maxNat
  | none => if Binary64.isNaN x || Binary64.isNegative x then 0 else Word.maxNat

def nat? : Setting → Option Nat
  | .bool b => some b.toNat
  | .int n => if 0 ≤ n then some n.toNat else none
  | .float x => some (nearestNat x)
  | .text s =>
    match truthWord? s with
    | some b => some b.toNat
    | none => (Text.readNat? s).filter (· ≤ Word.maxNat)
  | .array _ | .section _ => none

def natOfBits? (bits : Nat) (s : Setting) : Option Nat :=
  s.nat?.filter (Word.fits bits)

def text? : Setting → Option String
  | .bool b => some (if b then "true" else "false")
  | .int n => some (toString n)
  | .float x => some (Decimal.Style.plain.write x)
  | .text s => some s
  | .array _ | .section _ => none

/-- The name of a choice: a text, or the only name in a section. -/
def choice? : Setting → Option String
  | .text s => some s
  | .section [(name, _)] => some name
  | _ => none

end Segmentation.Configuration.Setting
