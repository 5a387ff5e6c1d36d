import Segmentation.Proofs.Sql.Token
import Segmentation.Sql.Customers

namespace Segmentation.Sql

open Rule (Combinator Comparator)

inductive Operand where
  | column (name : String)
  | parameter (n : Nat)
  deriving DecidableEq, Repr

inductive Expr where
  | constant (b : Bool)
  | isNull (a : Operand)
  | compare (comparator : Comparator) (a b : Operand)
  | search (a pattern : Operand)
  | and (p q : Expr)
  | or (p q : Expr)
  deriving DecidableEq, Repr

namespace Expr

/-- The parts of a condition: comparisons, what joins them, and parentheses around them. -/
inductive Part where
  | condition (e : Expr)
  | joint (c : Combinator)
  | opening
  | closing

def part? : Token → Option Part
  | .opening => some .opening
  | .closing => some .closing
  | .name "and" => some (.joint .and)
  | .name "or" => some (.joint .or)
  | .name "true" => some (.condition (.constant true))
  | .name "false" => some (.condition (.constant false))
  | _ => none

def operand? : Token → Option Operand
  | .name s => some (.column s)
  | .slot n => some (.parameter n)
  | _ => none

def comparator? : String → Option Comparator
  | ">" => some .gt
  | "<" => some .lt
  | "=" => some .eq
  | ">=" => some .gte
  | "<=" => some .lte
  | "<>" => some .ne
  | _ => none

def isNull? (a : Token) : Option Part :=
  (operand? a).map fun a => .condition (.isNull a)

def compare? (a : Token) (op : String) (b : Token) : Option Part := do
  return .condition (.compare (← comparator? op) (← operand? a) (← operand? b))

def search? (a b : Token) : Option Part := do
  return .condition (.search (← operand? a) (← operand? b))

def followed (part? : Option Part) (parts? : Option (List Part)) : Option (List Part) :=
  part?.bind fun part => parts?.map (part :: ·)

def parts? : List Token → Option (List Part)
  | [] => some []
  | t :: ts =>
    if t = .name "order" then some []
    else if t = .name "cast" then
      match ts with
      | .opening :: a :: .name "as" :: .name "text" :: .closing :: .operator "~*" :: b :: ts =>
        followed (search? a b) (parts? ts)
      | _ => none
    else match part? t with
      | some part => followed (some part) (parts? ts)
      | none =>
        match ts with
        | .name "is" :: .name "null" :: ts => followed (isNull? t) (parts? ts)
        | .operator op :: b :: ts => followed (compare? t op b) (parts? ts)
        | _ => none

section Parts

variable {t : Token}

theorem parts?_of_part {part : Part} (horder : t ≠ .name "order") (hcast : t ≠ .name "cast")
    (h : part? t = some part) (ts : List Token) :
    parts? (t :: ts) = (parts? ts).map (part :: ·) := by
  rw [parts?.eq_def]
  simp only [if_neg horder, if_neg hcast, h]
  rfl

theorem parts?_isNull (horder : t ≠ .name "order") (hcast : t ≠ .name "cast")
    (h : part? t = none) (ts : List Token) :
    parts? (t :: .name "is" :: .name "null" :: ts) = followed (isNull? t) (parts? ts) := by
  rw [parts?.eq_def]
  simp only [if_neg horder, if_neg hcast, h]

theorem parts?_compare (horder : t ≠ .name "order") (hcast : t ≠ .name "cast")
    (h : part? t = none) (op : String) (b : Token) (ts : List Token) :
    parts? (t :: .operator op :: b :: ts) = followed (compare? t op b) (parts? ts) := by
  rw [parts?.eq_def]
  simp only [if_neg horder, if_neg hcast, h]

theorem parts?_order (ts : List Token) : parts? (.name "order" :: ts) = some [] := by
  rw [parts?.eq_def]
  rfl

theorem parts?_search (a b : Token) (ts : List Token) :
    parts? (.name "cast" :: .opening :: a :: .name "as" :: .name "text" :: .closing ::
      .operator "~*" :: b :: ts) = followed (search? a b) (parts? ts) := by
  rw [parts?.eq_def]
  rfl

end Parts

/-- What was read behind a parenthesis: the condition in front of the last `OR`, and the one behind
it in front of the last `AND`. -/
structure Level where
  disjunction : Option Expr
  conjunction : Option Expr

def joined (join : Expr → Expr → Expr) : Option Expr → Expr → Expr
  | none, e => e
  | some p, e => join p e

def Level.close (level : Level) (e : Expr) : Expr :=
  joined or level.disjunction (joined and level.conjunction e)

def Level.empty : Level := ⟨none, none⟩

/-- Reads on behind the parentheses that are open, the innermost first. If a condition was read
just before, something that joins it or closes a parenthesis must come, and otherwise the beginning
of a condition. -/
def read (outer : List Level) (level : Level) : Option Expr → List Part → Option Expr
  | none, .condition e :: ps => read outer level (some e) ps
  | none, .opening :: ps => read (level :: outer) .empty none ps
  | some e, .joint .and :: ps => read outer { level with
      conjunction := some (joined and level.conjunction e) } none ps
  | some e, .joint .or :: ps => read outer ⟨some (level.close e), none⟩ none ps
  | some e, .closing :: ps =>
    match outer with
    | [] => none
    | above :: outer => read outer above (some (level.close e)) ps
  | some e, [] => if outer.isEmpty then some (level.close e) else none
  | _, _ => none
termination_by structural _ ps => ps

def ofTokens? (ts : List Token) : Option Expr := do
  read [] .empty none (← parts? ((ts.dropWhile (· != .name "where")).drop 1))

def ofText? (text : String) : Option Expr :=
  ofTokens? (Token.ofText text)

section Tree

def join : Combinator → Expr → Expr → Expr
  | .and => and
  | .or => or

def bound (f : Filter) : List Value :=
  (Condition.ofFilter f).filterMap Piece.value?

def ofCompare (n : Nat) (a : Attribute) (comparator : Comparator) (value : Attribute.Value) :
    Expr :=
  if !Condition.fits a value then constant (comparator == .ne)
  else if comparator = .ne then
    or (isNull (.column a.column)) (compare comparator (.column a.column) (.parameter n))
  else compare comparator (.column a.column) (.parameter n)

mutual

/-- The tree of a filter whose values are numbered on from `n`. -/
def ofFilter (n : Nat) : Filter → Expr
  | .matchAll => constant true
  | .group combinator [] => constant (combinator == .and)
  | .group combinator (clause :: rest) =>
    grow combinator (ofFilter n clause) (n + (bound clause).length) rest
  | .compare a comparator value => ofCompare n a comparator value
  | .pattern a _ => search (.column a.column) (.parameter n)

def grow (combinator : Combinator) (e : Expr) (n : Nat) : List Filter → Expr
  | [] => e
  | clause :: rest =>
    grow combinator (join combinator e (ofFilter n clause)) (n + (bound clause).length) rest

end

end Tree

def tokens (n : Nat) (pieces : List Piece) : List Token :=
  (Piece.number n pieces).flatMap Word.tokens

def ReadsAs (ts : List Token) (e : Expr) : Prop :=
  ∃ ps, (∀ rest, parts? (ts ++ rest) = (parts? rest).map (ps ++ ·)) ∧
    ∀ outer level rest, read outer level none (ps ++ rest) = read outer level (some e) rest

theorem readsAs_of_part {ts : List Token} {e : Expr}
    (h : ∀ rest, parts? (ts ++ rest) = (parts? rest).map (.condition e :: ·)) : ReadsAs ts e :=
  ⟨[.condition e], h, fun _ _ _ => rfl⟩

theorem tokens_word (n : Nat) (w : Word) (pieces : List Piece) :
    tokens n (.word w :: pieces) = w.tokens ++ tokens n pieces :=
  rfl

theorem tokens_keyword (n : Nat) (s : String) (pieces : List Piece) :
    tokens n (.keyword s :: pieces) = Word.tokens (.plain s) ++ tokens n pieces :=
  rfl

theorem tokens_bind (n : Nat) (v : Value) (pieces : List Piece) :
    tokens n (.bind v :: pieces) = .slot n :: tokens (n + 1) pieces := by
  rw [tokens, Piece.number, List.flatMap_cons, Word.tokens_slot]
  rfl

theorem tokens_append (n : Nat) (ps qs : List Piece) :
    tokens n (ps ++ qs) = tokens n ps ++ tokens (n + (ps.filterMap Piece.value?).length) qs := by
  induction ps generalizing n with
  | nil => rfl
  | cons p ps ih =>
    cases p with
    | word w =>
      rw [List.cons_append, tokens_word, tokens_word, ih, List.append_assoc]
      rfl
    | bind v =>
      rw [List.cons_append, tokens_bind, tokens_bind, ih]
      change _ = _ :: (_ ++ tokens (n + (ps.filterMap Piece.value?).length.succ) qs)
      rw [Nat.add_right_comm, Nat.add_succ]
      rfl

theorem tokens_clause (n : Nat) (f : Filter) (pieces : List Piece) :
    tokens n (Condition.ofFilter f ++ pieces) =
      tokens n (Condition.ofFilter f) ++ tokens (n + (bound f).length) pieces :=
  tokens_append n (Condition.ofFilter f) pieces

theorem tokens_column (a : Attribute) :
    Word.tokens (.plain a.column) = [.name a.column] := by
  cases a <;> rfl

theorem tokens_sql (comparator : Comparator) :
    Word.tokens (.plain comparator.sql) = [.operator comparator.sql] := by
  cases comparator <;> rfl

theorem readsAs_ofBool (n : Nat) (b : Bool) :
    ReadsAs (tokens n (Condition.ofBool b)) (.constant b) := by
  apply readsAs_of_part
  intro rest
  cases b with
  | true => exact parts?_of_part (by decide) (by decide) rfl rest
  | false => exact parts?_of_part (by decide) (by decide) rfl rest

theorem column_ne (a : Attribute) :
    Token.name a.column ≠ .name "order" ∧ Token.name a.column ≠ .name "cast" ∧
      part? (.name a.column) = none := by
  cases a <;> exact ⟨by decide, by decide, rfl⟩

theorem parts?_comparison (a : Attribute) (comparator : Comparator) (n : Nat)
    (ts : List Token) :
    parts? (.name a.column :: .operator comparator.sql :: .slot n :: ts) =
      (parts? ts).map
        (.condition (.compare comparator (.column a.column) (.parameter n)) :: ·) := by
  obtain ⟨horder, hcast, hpart⟩ := column_ne a
  rw [parts?_compare horder hcast hpart]
  cases comparator <;> rfl

theorem parts?_columnIsNull (a : Attribute) (ts : List Token) :
    parts? (.name a.column :: .name "is" :: .name "null" :: ts) =
      (parts? ts).map (.condition (.isNull (.column a.column)) :: ·) := by
  obtain ⟨horder, hcast, hpart⟩ := column_ne a
  rw [parts?_isNull horder hcast hpart]
  rfl

theorem tokens_comparison (n : Nat) (a : Attribute) (comparator : Comparator)
    (value : Attribute.Value) (pieces : List Piece) :
    tokens n (.keyword a.column :: .keyword comparator.sql :: Condition.bind value :: pieces) =
      .name a.column :: .operator comparator.sql :: .slot n :: tokens (n + 1) pieces := by
  have hbind : tokens n (Condition.bind value :: pieces) = .slot n :: tokens (n + 1) pieces := by
    cases value <;> exact tokens_bind n _ pieces
  rw [tokens_keyword, tokens_keyword, tokens_column, tokens_sql, hbind]
  rfl

theorem readsAs_ofCompare (n : Nat) (a : Attribute) (comparator : Comparator)
    (value : Attribute.Value) :
    ReadsAs (tokens n (Condition.ofCompare a comparator value))
      (ofCompare n a comparator value) := by
  rw [Condition.ofCompare, ofCompare]
  by_cases hfits : (!Condition.fits a value) = true
  · rw [if_pos hfits, if_pos hfits]
    exact readsAs_ofBool n _
  rw [if_neg hfits, if_neg hfits]
  by_cases hne : comparator = .ne
  · rw [if_pos hne, if_pos hne]
    refine ⟨[.opening, .condition (.isNull (.column a.column)), .joint .or,
      .condition (.compare comparator (.column a.column) (.parameter n)), .closing],
      fun rest => ?_, fun _ _ _ => rfl⟩
    have htokens : tokens n [.word .opening, .keyword a.column, .keyword "IS", .keyword "NULL",
        .keyword "OR", .keyword a.column, .keyword comparator.sql, Condition.bind value,
        .word .closing] ++ rest =
        .opening :: .name a.column :: .name "is" :: .name "null" :: .name "or" ::
          .name a.column :: .operator comparator.sql :: .slot n :: .closing :: rest := by
      rw [tokens_word, tokens_keyword, tokens_column, tokens_keyword, tokens_keyword,
        tokens_keyword, tokens_comparison]
      rfl
    rw [htokens, parts?_of_part (by decide) (by decide) rfl, parts?_columnIsNull,
      parts?_of_part (by decide) (by decide) rfl, parts?_comparison,
      parts?_of_part (by decide) (by decide) rfl]
    cases parts? rest <;> rfl
  · rw [if_neg hne, if_neg hne]
    apply readsAs_of_part
    intro rest
    rw [tokens_comparison]
    exact parts?_comparison a comparator n rest

theorem readsAs_ofPattern (n : Nat) (a : Attribute) (text : String) :
    ReadsAs (tokens n (Condition.ofPattern a text))
      (search (.column a.column) (.parameter n)) := by
  apply readsAs_of_part
  intro rest
  have htokens : tokens n (Condition.ofPattern a text) =
      [.name "cast", .opening, .name a.column, .name "as", .name "text", .closing,
        .operator "~*", .slot n] := by
    rw [Condition.ofPattern, tokens_word, tokens_keyword, tokens_column, tokens_keyword,
      tokens_keyword, tokens_word, tokens_keyword, tokens_bind]
    rfl
  rw [htokens]
  exact parts?_search (.name a.column) (.slot n) rest

def Level.within : Combinator → Option Expr → Level
  | .and, e => ⟨none, e⟩
  | .or, e => ⟨e, none⟩

theorem within_none (combinator : Combinator) : Level.within combinator none = .empty := by
  cases combinator <;> rfl

theorem read_joint (combinator : Combinator) (outer : List Level) (acc : Option Expr) (e : Expr)
    (ps : List Part) :
    read outer (.within combinator acc) (some e) (.joint combinator :: ps) =
      read outer (.within combinator (some (joined (join combinator) acc e))) none ps := by
  cases combinator <;> rfl

theorem read_closing (combinator : Combinator) (above : Level) (outer : List Level)
    (acc : Option Expr) (e : Expr) (ps : List Part) :
    read (above :: outer) (.within combinator acc) (some e) (.closing :: ps) =
      read outer above (some (joined (join combinator) acc e)) ps := by
  cases combinator <;> rfl

theorem parts?_joint (combinator : Combinator) (ts : List Token) :
    parts? (Word.tokens (.plain combinator.word) ++ ts) =
      (parts? ts).map (.joint combinator :: ·) := by
  cases combinator with
  | and => exact parts?_of_part (by decide) (by decide) rfl ts
  | or => exact parts?_of_part (by decide) (by decide) rfl ts

mutual

theorem readsAs_ofFilter (n : Nat) (f : Filter) :
    ReadsAs (tokens n (Condition.ofFilter f)) (ofFilter n f) := by
  cases f with
  | matchAll => exact readsAs_ofBool n true
  | compare a comparator value => exact readsAs_ofCompare n a comparator value
  | pattern a text => exact readsAs_ofPattern n a text
  | group combinator clauses =>
    cases clauses with
    | nil => cases combinator <;> exact readsAs_ofBool n _
    | cons clause rest =>
      obtain ⟨ps, hps, hread⟩ := readsAs_ofFilter n clause
      obtain ⟨qs, hqs, hgrow⟩ :=
        exists_parts_further combinator (n + (bound clause).length) rest
      refine ⟨.opening :: (ps ++ (qs ++ [.closing])), fun ts => ?_, fun outer level ts => ?_⟩
      · rw [Condition.ofFilter, tokens_word, tokens_clause, tokens_append]
        change parts? (.opening :: ((tokens n (Condition.ofFilter clause) ++
          (tokens (n + (bound clause).length) (Condition.further combinator rest) ++ [.closing])) ++
            ts)) = _
        rw [parts?_of_part (by decide) (by decide) rfl, List.append_assoc, hps, List.append_assoc,
          hqs, List.singleton_append, parts?_of_part (by decide) (by decide) rfl]
        cases parts? ts with
        | none => rfl
        | some rest => simp only [Option.map_some, List.cons_append, List.append_assoc,
            List.nil_append]
      · change read (level :: outer) .empty none ((ps ++ (qs ++ [.closing])) ++ ts) = _
        rw [← within_none combinator, List.append_assoc, List.append_assoc, hread,
          List.singleton_append, hgrow]
        rfl

theorem exists_parts_further (combinator : Combinator) (n : Nat) (clauses : List Filter) :
    ∃ ps, (∀ ts, parts? (tokens n (Condition.further combinator clauses) ++ ts) =
        (parts? ts).map (ps ++ ·)) ∧
      ∀ above outer acc e qs,
        read (above :: outer) (.within combinator acc) (some e) (ps ++ .closing :: qs) =
          read outer above (some (grow combinator (joined (join combinator) acc e) n clauses))
            qs := by
  cases clauses with
  | nil =>
    refine ⟨[], fun ts => ?_, fun above outer acc e qs => ?_⟩
    · exact Option.map_id'.symm
    · exact read_closing combinator above outer acc e qs
  | cons clause rest =>
    obtain ⟨ps, hps, hread⟩ := readsAs_ofFilter n clause
    obtain ⟨qs, hqs, hgrow⟩ := exists_parts_further combinator (n + (bound clause).length) rest
    refine ⟨.joint combinator :: (ps ++ qs), fun ts => ?_, fun above outer acc e ts => ?_⟩
    · rw [Condition.further, tokens_keyword, tokens_clause, List.append_assoc, parts?_joint,
        List.append_assoc, hps, hqs]
      cases parts? ts with
      | none => rfl
      | some rest => simp only [Option.map_some, List.cons_append, List.append_assoc]
    · rw [List.cons_append, read_joint, List.append_assoc, hread, hgrow]
      rfl

end

def ofScope (filter : Filter) : Expr :=
  and (compare .eq (.column "owner_id") (.parameter 1)) (ofFilter 2 filter)

theorem ofTokens?_scope {before after : List Token} (hbefore : ∀ t ∈ before, t ≠ .name "where")
    (hafter : parts? after = some []) (filter : Filter) (owner : String) :
    ofTokens? (before ++ (tokens 1 (Customers.scope filter owner) ++ after)) =
      some (ofScope filter) := by
  have hscope : tokens 1 (Customers.scope filter owner) =
      .name "where" :: .name "owner_id" :: .operator "=" :: .slot 1 :: .name "and" ::
        tokens 2 (Condition.ofFilter filter) := by
    change tokens 1 (.keyword "WHERE" :: .keyword "owner_id" :: .keyword "=" ::
      .bind (.text owner) :: .keyword "AND" :: Condition.ofFilter filter) = _
    rw [tokens_keyword, tokens_keyword, tokens_keyword, tokens_bind, tokens_keyword]
    rfl
  have hdrop : (before ++ (tokens 1 (Customers.scope filter owner) ++ after)).dropWhile
      (· != .name "where") = tokens 1 (Customers.scope filter owner) ++ after := by
    rw [List.dropWhile_append_of_pos fun t ht => bne_iff_ne.2 (hbefore t ht), hscope]
    rfl
  obtain ⟨ps, hps, hread⟩ := readsAs_ofFilter 2 filter
  have hparts : parts? (.name "owner_id" :: .operator "=" :: .slot 1 :: .name "and" ::
      (tokens 2 (Condition.ofFilter filter) ++ after)) =
      some (.condition (.compare .eq (.column "owner_id") (.parameter 1)) :: .joint .and ::
        (ps ++ [])) := by
    rw [parts?_compare (by decide) (by decide) rfl,
      parts?_of_part (by decide) (by decide) rfl, hps, hafter]
    rfl
  rw [ofTokens?, hdrop, hscope]
  change (parts? (.name "owner_id" :: .operator "=" :: .slot 1 :: .name "and" ::
    (tokens 2 (Condition.ofFilter filter) ++ after))).bind _ = _
  rw [hparts]
  change read [] ⟨none, some (.compare .eq (.column "owner_id") (.parameter 1))⟩ none (ps ++ []) = _
  rw [hread]
  rfl

end Expr

def Piece.areSolid (pieces : List Piece) : Bool :=
  pieces.all fun
    | word w => w.isSolid
    | bind _ => true

theorem Piece.isSolid_of_mem_number {pieces : List Piece} (h : areSolid pieces) {n : Nat}
    {w : Word} (hw : w ∈ number n pieces) : w.isSolid := by
  induction pieces generalizing n with
  | nil => cases hw
  | cons p rest ih =>
    rw [areSolid, List.all_cons, Bool.and_eq_true] at h
    cases p with
    | word v =>
      rcases List.mem_cons.1 hw with rfl | hw
      · exact h.1
      · exact ih h.2 hw
    | bind v =>
      rcases List.mem_cons.1 hw with rfl | hw
      · rfl
      · exact ih h.2 hw

theorem Piece.areSolid_append {ps qs : List Piece} (hps : areSolid ps) (hqs : areSolid qs) :
    areSolid (ps ++ qs) := by
  rw [areSolid, List.all_append, Bool.and_eq_true]
  exact ⟨hps, hqs⟩

namespace Condition

theorem areSolid_ofCompare (a : Attribute) (comparator : Comparator) (value : Attribute.Value) :
    Piece.areSolid (ofCompare a comparator value) := by
  rw [ofCompare]
  split
  · cases comparator <;> decide
  · split <;> cases a <;> cases comparator <;> cases value <;> rfl

mutual

theorem areSolid_ofFilter (f : Filter) : Piece.areSolid (ofFilter f) := by
  cases f with
  | matchAll => decide
  | compare a comparator value => exact areSolid_ofCompare a comparator value
  | pattern a text => cases a <;> rfl
  | group combinator clauses =>
    cases clauses with
    | nil => cases combinator <;> decide
    | cons clause rest =>
      exact Piece.areSolid_append (areSolid_ofFilter clause)
        (Piece.areSolid_append (areSolid_further combinator rest) (by decide))

theorem areSolid_further (combinator : Combinator) (clauses : List Filter) :
    Piece.areSolid (further combinator clauses) := by
  cases clauses with
  | nil => rfl
  | cons clause rest =>
    have hrest := Piece.areSolid_append (areSolid_ofFilter clause)
      (areSolid_further combinator rest)
    cases combinator <;> exact hrest

end

end Condition

namespace Customers

theorem areSolid_scope (filter : Filter) (owner : String) :
    Piece.areSolid (scope filter owner) :=
  Piece.areSolid_append (by rfl) (Condition.areSolid_ofFilter filter)

theorem ofText?_of_scope {before after : List Piece} (filter : Filter) (owner : String)
    (hsolid : Piece.areSolid before) (hsolid' : Piece.areSolid after)
    (hvalues : before.filterMap Piece.value? = [])
    (hbefore : ∀ t ∈ Expr.tokens 1 before, t ≠ .name "where")
    (hafter : ∀ n, Expr.parts? (Expr.tokens n after) = some []) :
    Expr.ofText? (Statement.ofPieces (before ++ (scope filter owner ++ after))).text =
      some (Expr.ofScope filter) := by
  have solid := Piece.areSolid_append hsolid
    (Piece.areSolid_append (areSolid_scope filter owner) hsolid')
  rw [Expr.ofText?, Statement.text, Statement.ofPieces,
    Word.tokens_join fun w hw => Piece.isSolid_of_mem_number solid hw]
  change Expr.ofTokens? (Expr.tokens 1 (before ++ (scope filter owner ++ after))) = _
  rw [Expr.tokens_append, hvalues, Expr.tokens_append]
  exact Expr.ofTokens?_scope hbefore (hafter _) filter owner

theorem ofText?_count (filter : Filter) (owner : String) :
    Expr.ofText? (count filter owner).statement.text = some (Expr.ofScope filter) := by
  have h := @ofText?_of_scope [.keyword "SELECT", .word (.function "COUNT"), .keyword "*",
    .word .closing, .keyword "FROM", .keyword "customers"] [] filter owner (by rfl) (by rfl) rfl
    (by decide) fun _ => rfl
  rw [List.append_nil] at h
  exact h

theorem ofText?_find (filter : Filter) (owner : String) (limit : Nat) :
    Expr.ofText? (find filter owner limit).statement.text = some (Expr.ofScope filter) := by
  have hafter (n : Nat) : Expr.parts? (Expr.tokens n
      (ordering ++ [.keyword "LIMIT", .bind (.int (min limit Word.maxInt))])) = some [] := by
    obtain ⟨ts, hts⟩ : ∃ ts, Expr.tokens n (ordering ++ [.keyword "LIMIT",
        .bind (.int (min limit Word.maxInt))]) = .name "order" :: ts := ⟨_, rfl⟩
    rw [hts]
    exact Expr.parts?_order ts
  have h := @ofText?_of_scope
    ([.keyword "SELECT"] ++ (Word.separated (columns.map fun c => [.plain c])).map .word ++
      [.keyword "FROM", .keyword "customers"])
    (ordering ++ [.keyword "LIMIT", .bind (.int (min limit Word.maxInt))]) filter owner
    (by rfl) (by rfl) rfl (by decide) hafter
  rw [find, findPieces, List.append_assoc, List.append_assoc]
  exact h

end Customers

end Segmentation.Sql
