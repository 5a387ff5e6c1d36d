import Segmentation.Sql.Statement

namespace Segmentation.Sql

/-- What a text of SQL is made of, as far as statements here go. Letters of either case are the
same in a name. -/
inductive Token where
  | name (s : String)
  | operator (s : String)
  | slot (n : Nat)
  | opening
  | closing
  | comma
  | other (s : List Char)
  deriving DecidableEq, Repr

namespace Token

inductive Kind where
  | blank
  | word
  | sign
  | mark
  deriving DecidableEq

def signs : List Char :=
  ['+', '-', '*', '/', '<', '>', '=', '~', '!', '@', '#', '%', '^', '&', '|', '?']

def kind (c : Char) : Kind :=
  if c = ' ' then .blank
  else if c.isAlphanum || c == '_' || c == '$' then .word
  else if signs.contains c then .sign
  else .mark

/-- Whether a character belongs to a token with the one behind it. -/
def joins (c d : Char) : Bool :=
  kind c == kind d && kind c != .mark

/-- A text cut into its longest runs of characters that belong together. -/
def runs : List Char → List (List Char)
  | [] => []
  | c :: rest =>
    match runs rest with
    | (d :: run) :: more => if joins c d then (c :: d :: run) :: more else [c] :: (d :: run) :: more
    | more => [c] :: more

def lexemes (s : List Char) : List (List Char) :=
  (runs s).filter fun run => !run.all fun c => kind c == .blank

def ofRun : List Char → Token
  | ['('] => opening
  | [')'] => closing
  | [','] => comma
  | '$' :: digits =>
    if !digits.isEmpty && digits.all Char.isDigit then slot (Nat.ofDigitChars 10 digits 0)
    else other ('$' :: digits)
  | c :: rest =>
    if kind c == .sign then operator (String.ofList (c :: rest))
    else if c.isAlpha || c == '_' then name (String.ofList ((c :: rest).map Char.toLower))
    else other (c :: rest)
  | [] => other []

def ofText (text : String) : List Token :=
  (lexemes text.toList).map ofRun

theorem head_runs (c : Char) (rest : List Char) :
    ∃ run more, runs (c :: rest) = (c :: run) :: more := by
  rw [runs]
  split
  · split
    · exact ⟨_, _, rfl⟩
    · exact ⟨_, _, rfl⟩
  · exact ⟨_, _, rfl⟩

theorem runs_cons_of_joins {c d : Char} {rest run : List Char} {more : List (List Char)}
    (h : runs rest = (d :: run) :: more) (hjoins : joins c d) :
    runs (c :: rest) = (c :: d :: run) :: more := by
  rw [runs, h]
  exact if_pos hjoins

theorem runs_cons_of_not_joins {c : Char} {rest : List Char}
    (h : ∀ d ∈ rest.head?, ¬joins c d) : runs (c :: rest) = [c] :: runs rest := by
  cases rest with
  | nil => rfl
  | cons d rest =>
    obtain ⟨run, more, hruns⟩ := head_runs d rest
    rw [runs, hruns]
    exact if_neg (h d rfl)

theorem runs_append {k : Kind} {run rest : List Char} (hne : run ≠ [])
    (hrun : ∀ c ∈ run, kind c = k) (hk : k ≠ .mark) (hrest : ∀ d ∈ rest.head?, kind d ≠ k) :
    runs (run ++ rest) = run :: runs rest := by
  induction run with
  | nil => exact absurd rfl hne
  | cons c run ih =>
    have hc : kind c = k := hrun c List.mem_cons_self
    cases run with
    | nil =>
      refine runs_cons_of_not_joins fun d hd hjoins => hrest d hd ?_
      rw [joins, Bool.and_eq_true, beq_iff_eq] at hjoins
      exact hjoins.1.symm.trans hc
    | cons d run =>
      have hd : kind d = k := hrun d (List.mem_cons_of_mem _ List.mem_cons_self)
      have hruns := ih (List.cons_ne_nil _ _) fun e he => hrun e (List.mem_cons_of_mem _ he)
      apply runs_cons_of_joins hruns
      rw [joins, hc, hd, Bool.and_eq_true]
      exact ⟨beq_self_eq_true k, bne_iff_ne.2 hk⟩

theorem lexemes_mark {c : Char} (hc : kind c = .mark) (rest : List Char) :
    lexemes (c :: rest) = [c] :: lexemes rest := by
  have hruns : runs (c :: rest) = [c] :: runs rest := by
    apply runs_cons_of_not_joins
    intro d _ hjoins
    rw [joins, hc, Bool.and_eq_true] at hjoins
    exact absurd hjoins.2 (by decide)
  rw [lexemes, hruns, List.filter_cons_of_pos, lexemes]
  rw [List.all_cons, hc]
  rfl

theorem lexemes_append {k : Kind} {run rest : List Char} (hne : run ≠ [])
    (hrun : ∀ c ∈ run, kind c = k) (hk : k ≠ .mark) (hblank : k ≠ .blank)
    (hrest : ∀ d ∈ rest.head?, kind d ≠ k) : lexemes (run ++ rest) = run :: lexemes rest := by
  rw [lexemes, runs_append hne hrun hk hrest, List.filter_cons_of_pos, lexemes]
  obtain ⟨c, run, rfl⟩ := List.exists_cons_of_ne_nil hne
  rw [List.all_cons, hrun c List.mem_cons_self, beq_false_of_ne hblank]
  rfl

theorem lexemes_blank {rest : List Char} (hrest : ∀ d ∈ rest.head?, kind d ≠ .blank) :
    lexemes (' ' :: rest) = lexemes rest := by
  have hrun : ∀ c ∈ [' '], kind c = .blank := by
    intro c hc
    rw [List.mem_singleton.1 hc]
    rfl
  have hruns := @runs_append .blank [' '] rest (List.cons_ne_nil _ _) hrun (by decide) hrest
  rw [lexemes, ← List.singleton_append, hruns]
  rfl

end Token

namespace Word

open Token (Kind kind lexemes)

def runs : Word → List (List Char)
  | plain s => [s.toList]
  | function name => [name.toList, ['(']]
  | opening => [['(']]
  | closing => [[')']]
  | comma => [[',']]
  | slot n => [('$' :: Nat.toDigits 10 n)]

def tokens (w : Word) : List Token :=
  w.runs.map Token.ofRun

def isRun (s : List Char) : Bool :=
  !s.isEmpty && (s.all (fun c => kind c == .word) || s.all fun c => kind c == .sign)

def isSolid : Word → Bool
  | plain s | function s => isRun s.toList
  | _ => true

theorem tokens_slot (n : Nat) : (slot n).tokens = [.slot n] := by
  have hne : (Nat.toDigits 10 n).isEmpty = false := List.isEmpty_eq_false_iff.2 Nat.toDigits_ne_nil
  have hdigits : (Nat.toDigits 10 n).all Char.isDigit := by
    rw [List.all_eq_true]
    exact fun c hc => Nat.isDigit_of_mem_toDigits (by decide) (by decide) hc
  rw [tokens, runs, List.map_singleton, Token.ofRun, hne, hdigits]
  · exact congrArg (fun n => [Token.slot n])
      (Nat.ofDigitChars_toDigits (by decide) (by decide))

theorem exists_kind_of_isRun {s : List Char} (h : isRun s) :
    s ≠ [] ∧ ∃ k, (∀ c ∈ s, kind c = k) ∧ k ≠ .mark ∧ k ≠ .blank := by
  simp only [isRun, Bool.and_eq_true, Bool.or_eq_true, List.all_eq_true, beq_iff_eq] at h
  obtain ⟨hne, hkind⟩ := h
  refine ⟨?_, ?_⟩
  · rintro rfl
    cases hne
  · rcases hkind with hword | hsign
    · exact ⟨.word, hword, by decide, by decide⟩
    · exact ⟨.sign, hsign, by decide, by decide⟩

theorem kind_of_isDigit {c : Char} (h : c.isDigit) : kind c = .word := by
  have hblank : c ≠ ' ' := by
    rintro rfl
    exact absurd h (by decide)
  rw [kind, if_neg hblank, if_pos]
  rw [Char.isAlphanum, h, Bool.or_true]
  rfl

theorem isRun_slot (n : Nat) : isRun ('$' :: Nat.toDigits 10 n) := by
  have hdigits : ∀ c ∈ Nat.toDigits 10 n, kind c = .word := fun c hc =>
    kind_of_isDigit (Nat.isDigit_of_mem_toDigits (by decide) (by decide) hc)
  simp only [isRun, List.isEmpty_cons, Bool.not_false, Bool.true_and, Bool.or_eq_true,
    List.all_eq_true, beq_iff_eq]
  refine .inl fun c hc => ?_
  rcases List.mem_cons.1 hc with rfl | hc
  · rfl
  · exact hdigits c hc

theorem text_slot (n : Nat) : (slot n).text.toList = '$' :: Nat.toDigits 10 n := by
  rw [text, String.toList_append, Nat.toString_eq_repr, Nat.toList_repr]
  rfl

theorem lexemes_of_isRun {run rest : List Char} (h : isRun run)
    (hrest : ∀ d ∈ rest.head?, kind d = .blank ∨ kind d = .mark) :
    lexemes (run ++ rest) = run :: lexemes rest := by
  obtain ⟨hne, k, hrun, hmark, hblank⟩ := exists_kind_of_isRun h
  apply Token.lexemes_append hne hrun hmark hblank
  intro d hd
  rcases hrest d hd with hd | hd
  · rw [hd]
    exact hblank.symm
  · rw [hd]
    exact hmark.symm

theorem lexemes_text {w : Word} {rest : List Char} (h : w.isSolid)
    (hrest : w.isTightAfter ∨ ∀ d ∈ rest.head?, kind d = .blank ∨ kind d = .mark) :
    lexemes (w.text.toList ++ rest) = w.runs ++ lexemes rest := by
  cases w with
  | plain s =>
    rcases hrest with htight | hrest
    · cases htight
    · exact lexemes_of_isRun h hrest
  | function name =>
    have hmark : ∀ d ∈ ('(' :: rest).head?, kind d = .blank ∨ kind d = .mark := by
      intro d hd
      cases hd
      exact .inr rfl
    rw [text, String.toList_append, List.append_assoc]
    change lexemes (name.toList ++ '(' :: rest) = _
    rw [lexemes_of_isRun h hmark, Token.lexemes_mark rfl]
    rfl
  | opening => exact Token.lexemes_mark rfl rest
  | closing => exact Token.lexemes_mark rfl rest
  | comma => exact Token.lexemes_mark rfl rest
  | slot n =>
    rcases hrest with htight | hrest
    · cases htight
    · rw [text_slot]
      exact lexemes_of_isRun (isRun_slot n) hrest

theorem head_text {w : Word} (h : w.isSolid) :
    ∃ c rest, w.text.toList = c :: rest ∧ kind c ≠ .blank ∧
      (w.isTightBefore → kind c = .mark) := by
  have ofRun {s : List Char} (hs : isRun s) : ∃ c rest, s = c :: rest ∧ kind c ≠ .blank := by
    obtain ⟨hne, k, hrun, -, hblank⟩ := exists_kind_of_isRun hs
    obtain ⟨c, rest, rfl⟩ := List.exists_cons_of_ne_nil hne
    refine ⟨c, rest, rfl, ?_⟩
    rw [hrun c List.mem_cons_self]
    exact hblank
  cases w with
  | plain s =>
    obtain ⟨c, rest, hs, hc⟩ := ofRun h
    exact ⟨c, rest, hs, hc, fun htight => by cases htight⟩
  | function name =>
    obtain ⟨c, rest, hs, hc⟩ := ofRun h
    refine ⟨c, rest ++ ['('], ?_, hc, fun htight => by cases htight⟩
    rw [text, String.toList_append, hs]
    rfl
  | opening => exact ⟨'(', [], rfl, by decide, fun htight => by cases htight⟩
  | closing => exact ⟨')', [], rfl, by decide, fun _ => rfl⟩
  | comma => exact ⟨',', [], rfl, by decide, fun _ => rfl⟩
  | slot n => exact ⟨'$', _, text_slot n, by decide, fun htight => by cases htight⟩

theorem exists_join_cons (w : Word) (ws : List Word) :
    ∃ rest, (join (w :: ws)).toList = w.text.toList ++ rest := by
  cases ws with
  | nil => exact ⟨[], (List.append_nil _).symm⟩
  | cons v ws =>
    rw [join, String.toList_append, String.toList_append, List.append_assoc]
    exact ⟨_, rfl⟩

theorem lexemes_join {ws : List Word} (h : ∀ w ∈ ws, w.isSolid) :
    lexemes (join ws).toList = ws.flatMap runs := by
  induction ws with
  | nil => rfl
  | cons v ws ih =>
    have hv := h v List.mem_cons_self
    cases ws with
    | nil =>
      have hlast := @lexemes_text v [] hv (.inr fun d hd => by cases hd)
      rw [List.append_nil] at hlast
      exact hlast
    | cons w ws =>
      have ih := ih fun w hw => h w (List.mem_cons_of_mem _ hw)
      obtain ⟨c, first, hw, hblank, htight⟩ := head_text (h w (List.mem_cons_of_mem _
        List.mem_cons_self))
      obtain ⟨rest, hjoin⟩ := exists_join_cons w ws
      rw [hw, List.cons_append] at hjoin
      rw [join, String.toList_append, String.toList_append, List.append_assoc, List.flatMap_cons,
        ← ih, hjoin]
      by_cases hgap : (v.isTightAfter || w.isTightBefore) = true
      · rw [if_pos hgap]
        apply lexemes_text hv
        rcases Bool.or_eq_true _ _ ▸ hgap with hafter | hbefore
        · exact .inl hafter
        · refine .inr fun d hd => ?_
          cases hd
          exact .inr (htight hbefore)
      · rw [if_neg hgap]
        change lexemes (v.text.toList ++ (' ' :: c :: (first ++ rest))) = _
        rw [lexemes_text hv, Token.lexemes_blank]
        · intro d hd
          cases hd
          exact hblank
        · refine .inr fun d hd => ?_
          cases hd
          exact .inl rfl

theorem tokens_join {ws : List Word} (h : ∀ w ∈ ws, w.isSolid) :
    Token.ofText (join ws) = ws.flatMap tokens := by
  rw [Token.ofText, lexemes_join h, List.map_flatMap]
  rfl

end Word

end Segmentation.Sql
