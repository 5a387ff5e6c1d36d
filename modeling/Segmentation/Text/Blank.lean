import Segmentation.Text.Range

namespace Segmentation.Text

def blankRanges : List (Nat × Nat) :=
  [(0x09, 0x0D), (0x20, 0x20), (0x85, 0x85), (0xA0, 0xA0), (0x1680, 0x1680), (0x2000, 0x200A),
    (0x2028, 0x2029), (0x202F, 0x202F), (0x205F, 0x205F), (0x3000, 0x3000)]

def isBlank (c : Char) : Bool :=
  isWithin blankRanges c

def trimChars (s : List Char) : List Char :=
  ((s.dropWhile isBlank).reverse.dropWhile isBlank).reverse

def trim (s : String) : String :=
  String.ofList (trimChars s.toList)

def isBlankText (s : String) : Bool :=
  s.toList.all isBlank

theorem dropWhile_isBlank_eq_nil_iff {s : List Char} :
    s.dropWhile isBlank = [] ↔ s.all isBlank = true := by
  induction s with
  | nil => simp
  | cons c rest ih => by_cases h : isBlank c = true <;> simp_all

theorem trimChars_eq_nil_iff {s : List Char} : trimChars s = [] ↔ s.all isBlank = true := by
  rw [trimChars, List.reverse_eq_nil_iff, dropWhile_isBlank_eq_nil_iff, List.all_reverse,
    ← dropWhile_isBlank_eq_nil_iff]
  induction s with
  | nil => simp
  | cons c rest ih =>
    by_cases h : isBlank c = true
    · simp [h, ih]
    · simp [h]

theorem dropWhile_isBlank_eq_self {s : List Char} (h : ∀ c, s.head? = some c → isBlank c = false) :
    s.dropWhile isBlank = s := by
  cases s with
  | nil => rfl
  | cons c rest => rw [List.dropWhile_cons, h c rfl, if_neg Bool.false_ne_true]

theorem isBlank_of_head?_dropWhile {s : List Char} {c : Char}
    (h : (s.dropWhile isBlank).head? = some c) : isBlank c = false := by
  have hnot := List.head?_dropWhile_not isBlank s
  rw [h] at hnot
  exact hnot

theorem trimChars_trimChars (s : List Char) : trimChars (trimChars s) = trimChars s := by
  have hfront : (trimChars s).dropWhile isBlank = trimChars s := by
    apply dropWhile_isBlank_eq_self
    intro c hc
    have hpre : trimChars s <+: s.dropWhile isBlank := by
      rw [trimChars, ← List.reverse_suffix, List.reverse_reverse]
      exact List.dropWhile_suffix isBlank
    obtain ⟨rest, hrest⟩ := hpre
    apply isBlank_of_head?_dropWhile (s := s)
    rw [← hrest, List.head?_append, hc]
    rfl
  have hback : (trimChars s).reverse.dropWhile isBlank = (trimChars s).reverse := by
    apply dropWhile_isBlank_eq_self
    intro c hc
    rw [trimChars, List.reverse_reverse] at hc
    exact isBlank_of_head?_dropWhile hc
  change (((trimChars s).dropWhile isBlank).reverse.dropWhile isBlank).reverse = _
  rw [hfront, hback, List.reverse_reverse]

theorem trim_trim (s : String) : trim (trim s) = trim s := by
  rw [trim, trim, String.toList_ofList, trimChars_trimChars]

end Segmentation.Text
