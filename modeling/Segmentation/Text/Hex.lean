namespace Segmentation.Text.Hex

def digit (n : Nat) : Char :=
  if n < 10 then Char.ofNat (0x30 + n) else Char.ofNat (0x57 + n)

def value? (c : Char) : Option Nat :=
  if '0' ≤ c ∧ c ≤ '9' then some (c.toNat - 0x30)
  else if 'a' ≤ c ∧ c ≤ 'f' then some (c.toNat - 0x57)
  else if 'A' ≤ c ∧ c ≤ 'F' then some (c.toNat - 0x37)
  else none

theorem value?_digit {n : Nat} (h : n < 16) : value? (digit n) = some n := by
  have all : ∀ k : Fin 16, value? (digit k.val) = some k.val := by decide
  exact all ⟨n, h⟩

def digits (n : Nat) : Nat → List Char
  | 0 => []
  | count + 1 => digits (n / 16) count ++ [digit (n % 16)]

def number? (s : List Char) : Option Nat :=
  (s.mapM value?).map fun values => values.foldl (fun n d => 16 * n + d) 0

theorem number?_concat (s : List Char) (c : Char) :
    number? (s ++ [c]) = (number? s).bind fun n => (value? c).map fun d => 16 * n + d := by
  rw [number?, number?, List.mapM_append, List.mapM_cons, List.mapM_nil]
  cases s.mapM value? with
  | none => rfl
  | some values => cases value? c <;> simp

theorem number?_digits {n count : Nat} (h : n < Nat.pow 16 count) :
    number? (digits n count) = some n := by
  induction count generalizing n with
  | zero =>
    obtain rfl : n = 0 := Nat.lt_one_iff.1 h
    rfl
  | succ count ih =>
    have hfront : n / 16 < Nat.pow 16 count :=
      Nat.div_lt_of_lt_mul (Nat.lt_of_lt_of_eq h (Nat.mul_comm _ _))
    have hlast : n % 16 < 16 := Nat.mod_lt n (by decide)
    rw [digits, number?_concat, ih hfront, value?_digit hlast, Option.bind_some, Option.map_some,
      Nat.div_add_mod]

end Segmentation.Text.Hex
