import Mathlib.Tactic.SplitIfs
import Segmentation.Json.Token
import Segmentation.Json.Writer
import Segmentation.Proofs.Instant.Text
import Segmentation.Proofs.Json.Numbers

namespace Segmentation

namespace Json

/-- Whether a text goes on as JSON does behind a value. -/
def Follows (rest : List Char) : Prop :=
  ∀ c ∈ rest.head?, c = ',' ∨ c = ']' ∨ c = '\x7d'

theorem follows_nil : Follows [] :=
  nofun

theorem follows_cons {c : Char} (h : c = ',' ∨ c = ']' ∨ c = '\x7d') (rest : List Char) :
    Follows (c :: rest) := by
  intro d hd
  cases hd
  exact h

namespace Token

section Numbers

variable {rest : List Char} (follows : Follows rest)

def behind {α : Type} (rest : List Char) (found : α × List Char) : α × List Char :=
  (found.1, found.2 ++ rest)

include follows

theorem splitDigits_append (s : List Char) :
    (s ++ rest).takeWhile Char.isDigit = s.takeWhile Char.isDigit ∧
      (s ++ rest).dropWhile Char.isDigit = s.dropWhile Char.isDigit ++ rest := by
  induction s with
  | nil =>
    cases rest with
    | nil => exact ⟨rfl, rfl⟩
    | cons c rest => rcases follows c rfl with rfl | rfl | rfl <;> exact ⟨rfl, rfl⟩
  | cons c s ih =>
    rw [List.cons_append, List.takeWhile_cons, List.dropWhile_cons, List.takeWhile_cons,
      List.dropWhile_cons, ih.1, ih.2]
    split <;> exact ⟨rfl, rfl⟩

theorem digits?_append (s : List Char) : digits? (s ++ rest) = (digits? s).map (behind rest) := by
  obtain ⟨htake, hdrop⟩ := splitDigits_append follows s
  simp only [digits?, htake, hdrop]
  split <;> rfl

theorem whole?_append (s : List Char) : whole? (s ++ rest) = (whole? s).map (behind rest) := by
  rw [whole?, whole?, digits?_append follows]
  cases digits? s with
  | none => rfl
  | some found => exact Option.filter_map ..

theorem fraction?_append (s : List Char) :
    fraction? (s ++ rest) = (fraction? s).map (behind rest) := by
  have of_ne {c : Char} (h : c ≠ '.') (s : List Char) :
      fraction? (c :: s) = some (none, c :: s) := by
    rw [fraction?.eq_def]
    split
    · next heq =>
      cases heq
      exact absurd rfl h
    · rfl
  match s with
  | [] =>
    cases rest with
    | nil => rfl
    | cons c rest => rcases follows c rfl with rfl | rfl | rfl <;> rfl
  | c :: s =>
    by_cases hc : c = '.'
    · subst hc
      change (digits? (s ++ rest)).map _ = ((digits? s).map _).map _
      rw [digits?_append follows, Option.map_map, Option.map_map]
      rfl
    · rw [List.cons_append, of_ne hc, of_ne hc]
      rfl

theorem splitSign_append (s : List Char) :
    Text.Numeral.splitSign (s ++ rest) = behind rest (Text.Numeral.splitSign s) := by
  match s with
  | [] =>
    cases rest with
    | nil => rfl
    | cons c rest => rcases follows c rfl with rfl | rfl | rfl <;> rfl
  | c :: s =>
    rw [List.cons_append, Text.Numeral.splitSign.eq_def, Text.Numeral.splitSign.eq_def]
    split <;> split <;> simp_all [behind]

theorem splitMinus_append (s : List Char) :
    splitMinus (s ++ rest) = behind rest (splitMinus s) := by
  match s with
  | [] =>
    cases rest with
    | nil => rfl
    | cons c rest => rcases follows c rfl with rfl | rfl | rfl <;> rfl
  | c :: s =>
    rw [List.cons_append, splitMinus.eq_def, splitMinus.eq_def]
    split <;> split <;> simp_all [behind]

theorem exponent?_append (s : List Char) :
    exponent? (s ++ rest) = (exponent? s).map (behind rest) := by
  match s with
  | [] =>
    cases rest with
    | nil => rfl
    | cons c rest => rcases follows c rfl with rfl | rfl | rfl <;> rfl
  | c :: s =>
    rw [List.cons_append, exponent?, exponent?, splitSign_append follows]
    split
    · simp only [behind, digits?_append follows, Option.map_map]
      rfl
    · rfl

theorem number?_append {s tail : List Char} {value : Option Json}
    (h : number? s = some (value, tail)) : number? (s ++ rest) = some (value, tail ++ rest) := by
  simp only [number?, splitMinus_append follows, behind, Option.bind_eq_bind,
    Option.bind_eq_some_iff, Option.pure_def, Option.some.injEq, Prod.mk.injEq,
    Prod.exists] at h ⊢
  obtain ⟨whole, s₁, hwhole, fraction, s₂, hfraction, exponent, s₃, hexponent, hvalue, rfl⟩ := h
  refine ⟨whole, s₁ ++ rest, ?_, fraction, s₂ ++ rest, ?_, exponent, s₃ ++ rest, ?_, hvalue, rfl⟩
  · rw [whole?_append follows, hwhole]
    rfl
  · rw [fraction?_append follows, hfraction]
    rfl
  · rw [exponent?_append follows, hexponent]
    rfl

end Numbers

section Integers

theorem head?_toDigits_ne {n : Nat} (h : 0 < n) : (Nat.toDigits 10 n).head? ≠ some '0' := by
  induction n using Nat.strongRecOn with
  | ind n ih =>
    by_cases hn : n < 10
    · rw [Nat.toDigits_of_lt_base hn, List.head?_cons, Ne, Option.some.injEq,
        Nat.digitChar_eq_zero]
      omega
    · have hfirst := ih (n / 10) (by omega) (by omega)
      obtain ⟨c, rest, hdigits⟩ := List.exists_cons_of_ne_nil (Nat.toDigits_ne_nil (b := 10))
      rw [Nat.toDigits_of_base_le (by decide) (by omega), hdigits]
      rwa [hdigits] at hfirst

theorem whole?_toDigits (n : Nat) :
    whole? (Nat.toDigits 10 n) = some (Nat.toDigits 10 n, []) := by
  have hdigits : ∀ c ∈ Nat.toDigits 10 n, c.isDigit := fun c hc =>
    Nat.isDigit_of_mem_toDigits (by decide) (by decide) hc
  obtain ⟨htake, hdrop⟩ : (Nat.toDigits 10 n).takeWhile Char.isDigit = Nat.toDigits 10 n ∧
      (Nat.toDigits 10 n).dropWhile Char.isDigit = [] :=
    ⟨List.takeWhile_eq_self_iff.2 hdigits, List.dropWhile_eq_nil_iff.2 hdigits⟩
  have hfirst : (Nat.toDigits 10 n).head? = some '0' → (Nat.toDigits 10 n).length = 1 := by
    intro hzero
    rcases Nat.eq_zero_or_pos n with rfl | hn
    · rfl
    · exact absurd hzero (head?_toDigits_ne hn)
  simp only [whole?, digits?, htake, hdrop, List.isEmpty_eq_false_iff.2 Nat.toDigits_ne_nil]
  simpa [Option.filter] using hfirst

theorem number?_of_splitMinus {s digits : List Char} {negative : Bool}
    (hs : splitMinus s = (negative, digits)) (hwhole : whole? digits = some (digits, [])) :
    number? s = some (numberValue negative digits none none, []) := by
  rw [number?, hs]
  dsimp only
  rw [hwhole]
  rfl

theorem numberValue_of_wholeValue? {negative : Bool} {n : Nat} {value : Int}
    (h : wholeValue? negative n = some value) :
    numberValue negative (Nat.toDigits 10 n) none none = some (.int value) := by
  rw [numberValue, Decimal.ofDigits_toDigits, h]
  rfl

/-- A whole number of 64 bits is read back from its text. -/
theorem number?_toString {n : Int} (h : Word.minInt ≤ n ∧ n ≤ Word.maxNat) :
    number? (toString n).toList = some (some (.int n), []) := by
  obtain ⟨hlow, hhigh⟩ := h
  cases n with
  | ofNat m =>
    have htext : (toString (Int.ofNat m)).toList = Nat.toDigits 10 m := Nat.toList_repr
    have hsplit : splitMinus (Nat.toDigits 10 m) = (false, Nat.toDigits 10 m) := by
      rw [splitMinus.eq_def]
      split
      · next rest heq =>
        have hminus := Nat.isDigit_of_mem_toDigits (b := 10) (n := m) (c := '-') (by decide)
          (by decide) (heq ▸ List.mem_cons_self)
        exact absurd hminus (by decide)
      · rfl
    have hvalue : wholeValue? false m = some (Int.ofNat m) :=
      if_pos (Int.ofNat_le.1 hhigh)
    rw [htext, number?_of_splitMinus hsplit (whole?_toDigits m),
      numberValue_of_wholeValue? hvalue]
  | negSucc m =>
    have htext : (toString (Int.negSucc m)).toList = '-' :: Nat.toDigits 10 (m + 1) := by
      change ("-" ++ (m + 1).repr).toList = _
      rw [String.toList_append, Nat.toList_repr]
      rfl
    have hvalue : wholeValue? true (m + 1) = some (Int.negSucc m) := by
      rw [wholeValue?, if_pos rfl, if_pos ⟨Nat.succ_pos m, hlow⟩]
      rfl
    have hsplit : splitMinus ('-' :: Nat.toDigits 10 (m + 1)) =
        (true, Nat.toDigits 10 (m + 1)) := rfl
    rw [htext, number?_of_splitMinus hsplit (whole?_toDigits (m + 1)),
      numberValue_of_wholeValue? hvalue]

end Integers

section Texts

def pieceOf (c : Char) : Piece :=
  if c.toNat < 0x20 ∧ c.toNat ∉ [0x08, 0x09, 0x0A, 0x0C, 0x0D] then .unit c.toNat else .char c

theorem pieces_escapeChar (c : Char) (rest : List Char) :
    pieces (escapeChar c ++ rest) =
      (pieces rest).map fun (ps, tail) => (pieceOf c :: ps, tail) := by
  have named {n : Nat} (h : c.toNat = n) : c = Char.ofNat n := by
    rw [← h, Char.ofNat_toNat]
  have read {c : Char} (h : pieceOf c = .char c) :
      (do
        let (ps, tail) ← pieces rest
        some (Piece.char c :: ps, tail)) =
      (pieces rest).map fun (ps, tail) => (pieceOf c :: ps, tail) := by
    rw [h]
    exact Option.map_eq_bind.symm
  rw [escapeChar]
  split_ifs with hquote hback h8 h9 hA hC hD hcontrol
  · subst hquote
    exact read rfl
  · subst hback
    exact read rfl
  · cases named h8
    exact read rfl
  · cases named h9
    exact read rfl
  · cases named hA
    exact read rfl
  · cases named hC
    exact read rfl
  · cases named hD
    exact read rfl
  · have hpiece : pieceOf c = .unit c.toNat := by
      rw [pieceOf, if_pos ⟨hcontrol, by simp [h8, h9, hA, hC, hD]⟩]
    have hdigits : Text.Hex.number? (Text.Hex.digits c.toNat 4) = some c.toNat :=
      Text.Hex.number?_digits (Nat.lt_trans hcontrol (by decide))
    rw [hpiece]
    change (Text.Hex.number? (Text.Hex.digits c.toNat 4)).bind _ = _
    rw [hdigits]
    exact Option.map_eq_bind.symm
  · have hpiece : pieceOf c = .char c := by
      rw [pieceOf, if_neg fun h => hcontrol h.1]
    rw [List.singleton_append, pieces.eq_def]
    split
    case h_5 _ _ _ heq =>
      obtain ⟨rfl, rfl⟩ := List.cons.inj heq
      rw [if_neg (not_or.2 ⟨hback, hcontrol⟩)]
      exact read hpiece
    all_goals simp_all

theorem chars_pieceOf (c : Char) (ps : List Piece) :
    chars (pieceOf c :: ps) = (chars ps).map (c :: ·) := by
  rw [pieceOf]
  split
  · next hc =>
    have hhigh : isHighSurrogate c.toNat = false := by
      simp only [isHighSurrogate, Bool.and_eq_false_iff, decide_eq_false_iff_not]
      omega
    have hlow : isLowSurrogate c.toNat = false := by
      simp only [isLowSurrogate, Bool.and_eq_false_iff, decide_eq_false_iff_not]
      omega
    match ps with
    | [] | .char _ :: _ => simp [chars, hhigh, hlow, Char.ofNat_toNat]
    | .unit _ :: _ => simp [chars, hhigh, hlow, Char.ofNat_toNat]
  · rfl

theorem pieces_quoted (cs rest : List Char) :
    pieces (cs.flatMap escapeChar ++ '"' :: rest) = some (cs.map pieceOf, rest) := by
  induction cs with
  | nil => rfl
  | cons c cs ih =>
    rw [List.flatMap_cons, List.append_assoc, pieces_escapeChar, ih]
    rfl

theorem chars_map_pieceOf (cs : List Char) : chars (cs.map pieceOf) = some cs := by
  induction cs with
  | nil => rfl
  | cons c cs ih =>
    rw [List.map_cons, chars_pieceOf, ih]
    rfl

theorem scan_quote (s : String) (rest : List Char) (fuel : Nat) :
    scan (fuel + 1) ((quote s).toList ++ rest) = .text (some s) :: scan fuel rest := by
  have htext : (quote s).toList ++ rest =
      '"' :: (s.toList.flatMap escapeChar ++ '"' :: rest) := by
    simp [quote]
  have hnext : next '"' (s.toList.flatMap escapeChar ++ '"' :: rest) = (.text (some s), rest) := by
    rw [next, pieces_quoted]
    simp [chars_map_pieceOf]
  rw [htext, scan, if_neg (by decide), hnext]

end Texts

section Values

theorem head_of_number? {s : List Char} {found : Option Json × List Char}
    (h : number? s = some found) : ∃ c rest, s = c :: rest ∧ (c = '-' ∨ c.isDigit) := by
  have of_whole? {s : List Char} {found : List Char × List Char} (h : whole? s = some found) :
      ∃ c rest, s = c :: rest ∧ c.isDigit := by
    obtain ⟨hdigits, -⟩ := Option.filter_eq_some_iff.1 h
    match s with
    | [] => cases hdigits
    | c :: rest =>
      refine ⟨c, rest, rfl, ?_⟩
      by_cases hc : c.isDigit
      · exact hc
      · rw [digits?, List.takeWhile_cons_of_neg hc] at hdigits
        cases hdigits
  rw [number?.eq_def, splitMinus.eq_def] at h
  obtain ⟨whole, hwhole, -⟩ := Option.bind_eq_some_iff.1 h
  split at hwhole
  · exact ⟨'-', _, rfl, .inl rfl⟩
  · obtain ⟨c, rest, rfl, hc⟩ := of_whole? hwhole
    exact ⟨c, rest, rfl, .inr hc⟩

theorem next_of_number? {c : Char} {rest tail : List Char} {value : Option Json}
    (hc : c = '-' ∨ c.isDigit) (h : number? (c :: rest) = some (value, tail)) :
    next c rest = (.number value, tail) := by
  rw [next.eq_def]
  split
  case h_11 => rw [if_pos hc, h]
  all_goals exact absurd hc (by decide)

theorem isBlank_of_number {c : Char} (hc : c = '-' ∨ c.isDigit) : isBlank c = false := by
  rw [Bool.eq_false_iff]
  intro hblank
  simp only [isBlank, Bool.or_eq_true, decide_eq_true_eq] at hblank
  obtain ((rfl | rfl) | rfl) | rfl := hblank <;> exact absurd hc (by decide)

theorem scan_number {text rest : List Char} {value : Json} (follows : Follows rest)
    (h : number? text = some (some value, [])) (fuel : Nat) :
    scan (fuel + 1) (text ++ rest) = .number (some value) :: scan fuel rest := by
  obtain ⟨c, cs, rfl, hc⟩ := head_of_number? h
  have hnext : next c (cs ++ rest) = (.number (some value), rest) :=
    next_of_number? hc (number?_append follows h)
  rw [List.cons_append, scan, isBlank_of_number hc, if_neg Bool.false_ne_true, hnext]

def float? (s : List Char) : Option Float :=
  match number? s with
  | some (some (.num x), []) => some x
  | _ => none

theorem number?_of_float? {s : List Char} {x : Float} (h : float? s = some x) :
    number? s = some (some (.num x), []) := by
  rw [float?] at h
  split at h
  · next hnumber =>
    cases h
    exact hnumber
  · cases h

end Values

end Token

/-- Whether a number that is not an integer is read back from its text. -/
def KeepsNumber (x : Float) : Prop :=
  Token.float? (numberStyle.write x).toList = some x

instance (x : Float) : Decidable (KeepsNumber x) :=
  inferInstanceAs (Decidable (_ = _))

/-- A value whose integers have 64 bits and whose other numbers are among those that are kept. -/
inductive IsKept (keeps : Float → Prop) : Json → Prop
  | null : IsKept keeps .null
  | bool (b : Bool) : IsKept keeps (.bool b)
  | int {n : Int} (fits : Word.minInt ≤ n ∧ n ≤ Word.maxNat) : IsKept keeps (.int n)
  | num {x : Float} (kept : keeps x) : IsKept keeps (.num x)
  | str (s : String) : IsKept keeps (.str s)
  | arr {items : List Json} (kept : ∀ j ∈ items, IsKept keeps j) : IsKept keeps (.arr items)
  | obj {members : List (String × Json)} (kept : ∀ m ∈ members, IsKept keeps m.2) :
    IsKept keeps (.obj members)

mutual

def toTokens : Json → List Token
  | .null => [.null]
  | .bool b => [.bool b]
  | .int n => [.number (some (.int n))]
  | .num x => [.number (some (.num x))]
  | .str s => [.text (some s)]
  | .arr items => .openArray :: ([.comma].intercalate (itemTokens items) ++ [.closeArray])
  | .obj members => .openObject :: ([.comma].intercalate (memberTokens members) ++ [.closeObject])
termination_by structural j => j

def itemTokens : List Json → List (List Token)
  | [] => []
  | j :: rest => toTokens j :: itemTokens rest
termination_by structural items => items

def memberTokens : List (String × Json) → List (List Token)
  | [] => []
  | (key, j) :: rest => (.text (some key) :: .colon :: toTokens j) :: memberTokens rest
termination_by structural members => members

end

theorem itemTokens_eq (items : List Json) : itemTokens items = items.map toTokens := by
  induction items with
  | nil => rfl
  | cons j rest ih => rw [itemTokens, ih, List.map_cons]

theorem memberTokens_eq (members : List (String × Json)) :
    memberTokens members = members.map fun m => .text (some m.1) :: .colon :: m.2.toTokens := by
  induction members with
  | nil => rfl
  | cons m rest ih => rw [memberTokens, ih, List.map_cons]

theorem writeItems_eq (number : Float → String) (items : List Json) :
    writeItems number items = items.map (writeWith number) := by
  induction items with
  | nil => rfl
  | cons j rest ih => rw [writeItems, ih, List.map_cons]

theorem writeMembers_eq (number : Float → String) (members : List (String × Json)) :
    writeMembers number members =
      members.map fun m => quote m.1 ++ ":" ++ writeWith number m.2 := by
  induction members with
  | nil => rfl
  | cons m rest ih => rw [writeMembers, ih, List.map_cons]

/-- A text is read as some tokens wherever what stands behind it is as wanted. -/
structure Scans (wanted : List Char → Prop) (text : List Char) (ts : List Token) : Prop where
  length_le : ts.length ≤ text.length
  scan : ∀ rest, wanted rest → ∀ fuel,
    Token.scan (ts.length + fuel) (text ++ rest) = ts ++ Token.scan fuel rest

namespace Scans

variable {wanted wanted' : List Char → Prop} {text text' : List Char} {ts ts' : List Token}

theorem append (h : Scans wanted text ts) (h' : Scans wanted' text' ts')
    (hwanted : ∀ rest, wanted' rest → wanted (text' ++ rest)) :
    Scans wanted' (text ++ text') (ts ++ ts') where
  length_le := by
    rw [List.length_append, List.length_append]
    exact Nat.add_le_add h.length_le h'.length_le
  scan rest hrest fuel := by
    rw [List.length_append, Nat.add_assoc, List.append_assoc, h.scan _ (hwanted rest hrest),
      h'.scan rest hrest, List.append_assoc]

theorem mono (h : Scans wanted text ts) (hwanted : ∀ rest, wanted' rest → wanted rest) :
    Scans wanted' text ts :=
  ⟨h.length_le, fun rest hrest => h.scan rest (hwanted rest hrest)⟩

theorem of_one {token : Token} (hne : text ≠ [])
    (h : ∀ rest, wanted rest → ∀ fuel,
      Token.scan (fuel + 1) (text ++ rest) = token :: Token.scan fuel rest) :
    Scans wanted text [token] where
  length_le := List.length_pos_iff.2 hne
  scan rest hrest fuel := by
    rw [List.length_singleton, Nat.add_comm]
    exact h rest hrest fuel

theorem of_number {text : List Char} {value : Json}
    (h : Token.number? text = some (some value, [])) :
    Scans Follows text [.number (some value)] := by
  refine of_one ?_ fun rest follows fuel => Token.scan_number follows h fuel
  obtain ⟨c, rest, rfl, -⟩ := Token.head_of_number? h
  exact List.cons_ne_nil c rest

theorem of_quote (s : String) : Scans (fun _ => True) (quote s).toList [.text (some s)] := by
  refine of_one ?_ fun rest _ fuel => Token.scan_quote s rest fuel
  simp [quote]

theorem intercalate {α : Type} {text : α → List Char} {toTokens : α → List Token} {xs : List α}
    (h : ∀ x ∈ xs, Scans Follows (text x) (toTokens x)) :
    Scans Follows ([','].intercalate (xs.map text)) ([.comma].intercalate (xs.map toTokens)) := by
  have comma : Scans (fun _ => True) [','] [.comma] := of_one nofun fun _ _ _ => rfl
  induction xs with
  | nil =>
    refine ⟨Nat.le_refl 0, fun rest _ fuel => ?_⟩
    simp
  | cons x xs ih =>
    obtain ⟨hx, hxs⟩ := List.forall_mem_cons.1 h
    cases xs with
    | nil =>
      simp only [List.map_cons, List.map_nil, List.intercalate_singleton]
      exact hx
    | cons y xs =>
      simp only [List.map_cons, List.intercalate_cons_cons]
      have hfirst := hx.append comma fun rest _ => follows_cons (.inl rfl) rest
      exact hfirst.append (ih hxs) fun _ _ => trivial

end Scans

theorem toList_write_arr (items : List Json) : (Json.arr items).write.toList =
    ['['] ++ ([','].intercalate (items.map fun j => j.write.toList) ++ [']']) := by
  have hbody := String.toList_intercalate (s := ",") (l := items.map write)
  rw [List.map_map] at hbody
  rw [write, writeWith, writeItems_eq, ← write, String.toList_append, String.toList_append, hbody,
    List.append_assoc]
  rfl

theorem toList_write_obj (members : List (String × Json)) : (Json.obj members).write.toList =
    ['\x7b'] ++ ([','].intercalate
      (members.map fun m => (quote m.1).toList ++ ([':'] ++ m.2.write.toList)) ++ ['\x7d']) := by
  have hmember : (String.toList ∘ fun m : String × Json => quote m.1 ++ ":" ++ m.2.write) =
      fun m => (quote m.1).toList ++ ([':'] ++ m.2.write.toList) := by
    funext m
    rw [Function.comp_apply, String.toList_append, String.toList_append, List.append_assoc]
    rfl
  have hbody := String.toList_intercalate (s := ",")
    (l := members.map fun m => quote m.1 ++ ":" ++ m.2.write)
  rw [List.map_map, hmember] at hbody
  rw [write, writeWith, writeMembers_eq, ← write, String.toList_append, String.toList_append,
    hbody, List.append_assoc]
  rfl

theorem scans_write {v : Json} (h : v.IsKept KeepsNumber) :
    Scans Follows v.write.toList v.toTokens := by
  -- By induction on the value: a text ends where a comma or a bracket follows.
  induction h with
  | null => exact .of_one nofun fun _ _ _ => rfl
  | bool b => cases b <;> exact .of_one nofun fun _ _ _ => rfl
  | int fits => exact .of_number (Token.number?_toString fits)
  | @num x kept =>
    have hnumber := Token.number?_of_float? kept
    have hfinite : Binary64.isFinite x := by
      cases Token.isNumber_of_number? hnumber with
      | num finite => exact finite
    have htext : (Json.num x).write = numberStyle.write x := if_pos hfinite
    rw [htext]
    exact .of_number hnumber
  | str s => exact (Scans.of_quote s).mono fun _ _ => trivial
  | @arr items kept ih =>
    have hitems : Scans Follows ([','].intercalate (items.map fun j => j.write.toList))
        ([.comma].intercalate (items.map toTokens)) := .intercalate ih
    have opening : Scans (fun _ => True) ['['] [.openArray] := .of_one nofun fun _ _ _ => rfl
    have closing : Scans (fun _ => True) [']'] [.closeArray] := .of_one nofun fun _ _ _ => rfl
    rw [toList_write_arr, toTokens, itemTokens_eq]
    refine (opening.append (hitems.append closing ?_) fun _ _ => trivial).mono fun _ _ => trivial
    exact fun rest _ => follows_cons (.inr (.inl rfl)) rest
  | @obj members kept ih =>
    have colon : Scans (fun _ => True) [':'] [.colon] := .of_one nofun fun _ _ _ => rfl
    have hmember (m : String × Json) (hm : m ∈ members) :
        Scans Follows ((quote m.1).toList ++ ([':'] ++ m.2.write.toList))
          (.text (some m.1) :: .colon :: m.2.toTokens) :=
      (Scans.of_quote m.1).append (colon.append (ih m hm) fun _ _ => trivial) fun _ _ => trivial
    have hmembers := Scans.intercalate hmember
    have opening : Scans (fun _ => True) ['\x7b'] [.openObject] := .of_one nofun fun _ _ _ => rfl
    have closing : Scans (fun _ => True) ['\x7d'] [.closeObject] := .of_one nofun fun _ _ _ => rfl
    rw [toList_write_obj, toTokens, memberTokens_eq]
    refine (opening.append (hmembers.append closing ?_) fun _ _ => trivial).mono fun _ _ => trivial
    exact fun rest _ => follows_cons (.inr (.inr rfl)) rest

theorem tokens_write {v : Json} (h : v.IsKept KeepsNumber) : tokens v.write = v.toTokens := by
  have hscan := scans_write h
  obtain ⟨fuel, hfuel⟩ := Nat.exists_eq_add_of_le (Nat.le_succ_of_le hscan.length_le)
  have hread := hscan.scan [] follows_nil fuel
  rw [List.append_nil, ← hfuel] at hread
  rw [tokens, ← String.length_toList]
  cases fuel <;> simpa [Token.scan] using hread

end Json

end Segmentation
