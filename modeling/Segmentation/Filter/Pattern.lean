namespace Segmentation.Filter.Pattern

def operatorChars : List Char :=
  ['\\', '.', '+', '*', '?', '(', ')', '|', '[', '\x7b', '^', '$']

/-- The characters that are escaped although they need not be. -/
def cautiousChars : List Char :=
  [']', '\x7d', '#', '&', '-', '~']

def isOperator (c : Char) : Bool :=
  operatorChars.contains c

def isMeta (c : Char) : Bool :=
  isOperator c || cautiousChars.contains c

def isEscapable (c : Char) : Bool :=
  isMeta c || (c.toNat < 0x80 && !c.isAlphanum && c != '<' && c != '>')

def escapeChars (s : List Char) : List Char :=
  s.flatMap fun c => if isMeta c then ['\\', c] else [c]

/-- A pattern that finds exactly the given text. -/
def escape (s : String) : String :=
  String.ofList (escapeChars s.toList)

/-- The text that a pattern stands for, if it stands for one. -/
def literal? : List Char → Option (List Char)
  | [] => some []
  | '\\' :: c :: rest => if isEscapable c then (literal? rest).map (c :: ·) else none
  | c :: rest => if isOperator c then none else (literal? rest).map (c :: ·)

theorem literal?_escapeChars (s : List Char) : literal? (escapeChars s) = some s := by
  induction s with
  | nil => rfl
  | cons c rest ih =>
    have step : escapeChars (c :: rest) =
        (if isMeta c then ['\\', c] else [c]) ++ escapeChars rest := by
      simp [escapeChars]
    rw [step]
    by_cases h : isMeta c = true
    · have he : isEscapable c = true := by simp [isEscapable, h]
      simp [h, literal?, he, ih]
    · have hop : isOperator c = false := by
        simp only [isMeta, Bool.or_eq_true, not_or] at h
        simpa using h.1
      have hslash : c ≠ '\\' := by
        rintro rfl
        exact h (by decide)
      cases hr : escapeChars rest with
      | nil => simp_all [literal?]
      | cons d tail => simp_all [literal?]

/-- Whether one text stands somewhere in another, letters of either case being the same. -/
def occursIn (wanted : List Char) : List Char → Bool
  | [] => wanted.isEmpty
  | c :: rest =>
    (wanted.map Char.toLower).isPrefixOf ((c :: rest).map Char.toLower) || occursIn wanted rest

/-- Whether a pattern is found in a text. A pattern that stands for no literal text is not. -/
def occurs (pattern text : String) : Bool :=
  (literal? pattern.toList).any fun wanted => occursIn wanted text.toList

end Segmentation.Filter.Pattern
