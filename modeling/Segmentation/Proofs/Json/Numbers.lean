import Segmentation.Json.Reader
import Segmentation.Proofs.Decimal.Finite

namespace Segmentation.Json

mutual

/-- Whether all numbers in a value are numbers that JSON has. -/
def isProper : Json → Bool
  | .int n => Word.minInt ≤ n && n ≤ Word.maxNat
  | .num x => Binary64.isFinite x
  | .arr items => areProper items
  | .obj members => areProperMembers members
  | _ => true
termination_by structural j => j

def areProper : List Json → Bool
  | [] => true
  | j :: rest => isProper j && areProper rest
termination_by structural items => items

def areProperMembers : List (String × Json) → Bool
  | [] => true
  | (_, j) :: rest => isProper j && areProperMembers rest
termination_by structural members => members

end

theorem areProper_eq_true_iff {items : List Json} :
    areProper items = true ↔ ∀ j ∈ items, j.isProper = true := by
  induction items with
  | nil => simp [areProper]
  | cons j rest ih => simp [areProper, ih]

theorem areProperMembers_eq_true_iff {members : List (String × Json)} :
    areProperMembers members = true ↔ ∀ m ∈ members, m.2.isProper = true := by
  induction members with
  | nil => simp [areProperMembers]
  | cons m rest ih => simp [areProperMembers, ih]

theorem isFinite_of_isProper {j : Json} {x : Float} (h : j.isProper = true)
    (hx : j.float? = some x) : Binary64.isFinite x = true := by
  cases j with
  | int n =>
    cases hx
    simp only [isProper, Bool.and_eq_true, decide_eq_true_eq] at h
    rw [Word.minInt, Word.maxNat] at h
    apply Decimal.isFinite_floatOfInt
    omega
  | num y =>
    cases hx
    exact h
  | null | bool | str | arr | obj => cases hx

/-- The numbers that JSON has. -/
inductive IsNumber : Json → Prop
  | int {n : Int} (fits : Word.minInt ≤ n ∧ n ≤ Word.maxNat) : IsNumber (.int n)
  | num {x : Float} (finite : Binary64.isFinite x) : IsNumber (.num x)

namespace Token

def IsProper : Token → Prop
  | .number (some value) => value.IsNumber
  | _ => True

theorem isNumber_of_wholeValue? {negative : Bool} {n : Nat} {value : Int}
    (h : wholeValue? negative n = some value) : (Json.int value).IsNumber := by
  apply IsNumber.int
  rw [wholeValue?, Word.minInt, Word.maxNat] at h
  rw [Word.minInt, Word.maxNat]
  split at h <;> split at h <;> cases h <;> omega

theorem isNumber_of_numberValue {negative : Bool} {whole : List Char}
    {fraction : Option (List Char)} {exponent : Option Int} {value : Json}
    (h : numberValue negative whole fraction exponent = some value) : value.IsNumber := by
  have near {x : Float} (h : (if Binary64.isFinite x then some (Json.num x) else none) =
      some value) : value.IsNumber := by
    split at h
    · next hx =>
      cases h
      exact .num hx
    · cases h
  rw [numberValue.eq_def] at h
  split at h
  · rcases Option.or_eq_some_iff.1 h with h | ⟨-, h⟩
    · obtain ⟨n, hn, rfl⟩ := Option.map_eq_some_iff.1 h
      exact isNumber_of_wholeValue? hn
    · exact near h
  · exact near h

theorem isNumber_of_number? {s tail : List Char} {value : Json}
    (h : number? s = some (some value, tail)) : value.IsNumber := by
  simp only [number?, Option.bind_eq_bind, Option.bind_eq_some_iff, Option.pure_def,
    Option.some.injEq, Prod.mk.injEq, Prod.exists] at h
  obtain ⟨_, _, -, _, _, -, _, _, -, hvalue, -⟩ := h
  exact isNumber_of_numberValue hvalue

theorem isProper_next (c : Char) (rest : List Char) : (next c rest).1.IsProper := by
  rw [next.eq_def]
  split
  case h_10 => split <;> trivial
  case h_11 =>
    split
    · split
      · trivial
      · next value tail hnumber =>
        cases value with
        | none => trivial
        | some value => exact isNumber_of_number? hnumber
    · trivial
  all_goals trivial

theorem isProper_of_mem_scan {fuel : Nat} {s : List Char} {token : Token}
    (h : token ∈ scan fuel s) : token.IsProper := by
  induction fuel generalizing s with
  | zero => cases h
  | succ fuel ih =>
    cases s with
    | nil => cases h
    | cons c rest =>
      rw [scan] at h
      split at h
      · exact ih h
      · have hnext := isProper_next c rest
        generalize next c rest = found at *
        obtain ⟨first, tail⟩ := found
        dsimp only at h
        split at h
        · rw [List.mem_singleton] at h
          rw [h]
          trivial
        · rcases List.mem_cons.1 h with rfl | h
          · exact hnext
          · exact ih h

end Token

end Segmentation.Json
