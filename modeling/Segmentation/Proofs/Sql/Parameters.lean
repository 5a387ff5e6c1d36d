import Segmentation.Proofs.Sql.Selection

namespace Segmentation

namespace Attribute.Value

def blank : Value → Value
  | number _ => number 0
  | timestamp _ => timestamp default

def isOf : Attribute → Value → Bool
  | .spend, number _ | .visits, number _ => true
  | .lastOrderDate, timestamp _ => true
  | _, _ => false

end Attribute.Value

namespace Filter

mutual

/-- What is left of a filter without its data: its groups, attributes, comparators and the kinds of
its values. -/
def blank : Filter → Filter
  | .matchAll => .matchAll
  | .group combinator clauses => .group combinator (blankAll clauses)
  | .compare a comparator value => .compare a comparator value.blank
  | .pattern a _ => .pattern a ""

def blankAll : List Filter → List Filter
  | [] => []
  | clause :: rest => blank clause :: blankAll rest

end

/-- What a predicate has to be compared with, if it is not decided by the kind of its value. -/
def parameter? : Filter → Option Sql.Value
  | .compare a _ value => if value.isOf a then some (Sql.boundValue value) else none
  | .pattern _ text => some (.text text)
  | _ => none

/-- What the predicates of a filter are compared with, from left to right. -/
def parameters (f : Filter) : List Sql.Value :=
  f.predicates.filterMap parameter?

end Filter

namespace Sql

open Rule (Combinator Comparator)

namespace Word

def slot? : Word → Option Nat
  | slot n => some n
  | _ => none

def vocabulary : List Word :=
  [opening, closing, comma, function "CAST", function "COUNT"] ++
    (["SELECT", "*", "FROM", "customers", "WHERE", "TRUE", "FALSE", "AND", "OR", "IS", "NULL",
      "AS", "TEXT", "~*", ">", "<", "=", ">=", "<=", "<>", "ORDER", "BY", "DESC", "NULLS", "LAST",
      "ASC", "LIMIT"] ++ Customers.columns).map plain

theorem not_mem_text_of_vocabulary {w : Word} (h : w ∈ vocabulary) : '$' ∉ w.text.toList := by
  have hall : vocabulary.all fun w => !w.text.toList.contains '$' := by rfl
  simpa using List.all_eq_true.1 hall w h

theorem slot?_of_vocabulary {w : Word} (h : w ∈ vocabulary) : w.slot? = none := by
  have hall : vocabulary.all fun w => w.slot?.isNone := by rfl
  simpa using List.all_eq_true.1 hall w h

end Word

namespace Piece

def word? : Piece → Option Word
  | word w => some w
  | bind _ => none

theorem number_congr {ps qs : List Piece} (h : ps.map word? = qs.map word?) (n : Nat) :
    number n ps = number n qs := by
  induction ps generalizing qs n with
  | nil =>
    obtain rfl : qs = [] := List.map_eq_nil_iff.1 h.symm
    rfl
  | cons p ps ih =>
    cases qs with
    | nil => cases h
    | cons q qs =>
      obtain ⟨hword, hrest⟩ := List.cons.inj h
      cases p with
      | word v =>
        cases q with
        | word w =>
          obtain rfl : v = w := Option.some.inj hword
          rw [number, number, ih hrest n]
        | bind y => cases hword
      | bind x =>
        cases q with
        | word w => cases hword
        | bind y => rw [number, number, ih hrest (n + 1)]

def areKnown (pieces : List Piece) : Bool :=
  pieces.all fun
    | word w => Word.vocabulary.contains w
    | bind _ => true

theorem areKnown_append {ps qs : List Piece} (hps : areKnown ps) (hqs : areKnown qs) :
    areKnown (ps ++ qs) := by
  rw [areKnown, List.all_append, Bool.and_eq_true]
  exact ⟨hps, hqs⟩

theorem areKnown_cons {p : Piece} {ps : List Piece} (h : areKnown (p :: ps)) :
    (∀ w, p = word w → w ∈ Word.vocabulary) ∧ areKnown ps := by
  rw [areKnown, List.all_cons, Bool.and_eq_true] at h
  refine ⟨?_, h.2⟩
  rintro w rfl
  exact List.contains_iff_mem.1 h.1

theorem filterMap_slot?_number {ps : List Piece} (h : areKnown ps) (n : Nat) :
    (number n ps).filterMap Word.slot? = List.range' n (ps.filterMap value?).length := by
  induction ps generalizing n with
  | nil => rfl
  | cons p ps ih =>
    obtain ⟨hp, hps⟩ := areKnown_cons h
    cases p with
    | word w =>
      have hw : w.slot? = none := Word.slot?_of_vocabulary (hp w rfl)
      rw [number, List.filterMap_cons_none hw, ih hps n]
      rfl
    | bind v =>
      have hslot : (Word.slot n).slot? = some n := rfl
      rw [number, List.filterMap_cons_some hslot, ih hps (n + 1)]
      rfl

theorem mem_number {ps : List Piece} (h : areKnown ps) {n : Nat} {w : Word}
    (hw : w ∈ number n ps) : w ∈ Word.vocabulary ∨ ∃ k, w = .slot k := by
  induction ps generalizing n with
  | nil => cases hw
  | cons p ps ih =>
    obtain ⟨hp, hps⟩ := areKnown_cons h
    cases p with
    | word v =>
      rcases List.mem_cons.1 hw with rfl | hw
      · exact .inl (hp w rfl)
      · exact ih hps hw
    | bind v =>
      rcases List.mem_cons.1 hw with rfl | hw
      · exact .inr ⟨n, rfl⟩
      · exact ih hps hw

end Piece

/-- The numbers behind the dollar signs of a text, from left to right. -/
def placeholders : List Char → List Nat
  | [] => []
  | c :: rest =>
    if c = '$' then Nat.ofDigitChars 10 (rest.takeWhile Char.isDigit) 0 :: placeholders rest
    else placeholders rest

theorem placeholders_append {s : List Char} (h : '$' ∉ s) (rest : List Char) :
    placeholders (s ++ rest) = placeholders rest := by
  induction s with
  | nil => rfl
  | cons c s ih =>
    rw [List.mem_cons, not_or] at h
    rw [List.cons_append, placeholders, if_neg (Ne.symm h.1), ih h.2]

theorem placeholders_slot (n : Nat) {rest : List Char}
    (h : ∀ d ∈ rest.head?, d.isDigit = false) :
    placeholders ((Word.slot n).text.toList ++ rest) = n :: placeholders rest := by
  have hdigit : ∀ c ∈ Nat.toDigits 10 n, c.isDigit = true := fun c hc =>
    Nat.isDigit_of_mem_toDigits (by decide) (by decide) hc
  have htake : (Nat.toDigits 10 n ++ rest).takeWhile Char.isDigit = Nat.toDigits 10 n := by
    rw [List.takeWhile_append_of_pos hdigit]
    cases rest with
    | nil => exact List.append_nil _
    | cons d rest => rw [List.takeWhile_cons_of_neg (by simp [h d rfl]), List.append_nil]
  have hdollar : '$' ∉ Nat.toDigits 10 n := fun hmem => by simpa using hdigit _ hmem
  rw [Word.text_slot, List.cons_append, placeholders, if_pos rfl, htake,
    Nat.ofDigitChars_toDigits (by decide) (by decide), placeholders_append hdollar]

namespace Word

theorem head_behind {v : Word} (hv : v.isTightAfter = false) (w : Word) (ws : List Word) :
    ∀ d ∈ ((if v.isTightAfter || w.isTightBefore then "" else " ") ++ join (w :: ws)).toList.head?,
      d.isDigit = false := by
  obtain ⟨rest, hjoin⟩ := exists_join_cons w ws
  rw [String.toList_append, hjoin, hv, Bool.false_or]
  intro d hd
  cases w with
  | closing | comma =>
    cases hd
    rfl
  | plain s | function s | slot s | opening =>
    have hblank : " ".toList = [' '] := rfl
    simp only [isTightBefore, Bool.false_eq_true, if_false, hblank, List.cons_append,
      List.head?_cons, Option.mem_def, Option.some.injEq] at hd
    rw [← hd]
    rfl

theorem placeholders_join {ws : List Word} (h : ∀ w ∈ ws, w ∈ vocabulary ∨ ∃ k, w = slot k) :
    placeholders (join ws).toList = ws.filterMap slot? := by
  induction ws with
  | nil => rfl
  | cons v ws ih =>
    have hbehind (rest : List Char) (hrest : v.isTightAfter = false →
        ∀ d ∈ rest.head?, d.isDigit = false) :
        placeholders (v.text.toList ++ rest) = v.slot?.toList ++ placeholders rest := by
      rcases h v List.mem_cons_self with hv | ⟨n, rfl⟩
      · rw [placeholders_append (not_mem_text_of_vocabulary hv), slot?_of_vocabulary hv]
        rfl
      · exact placeholders_slot n (hrest rfl)
    have hcons : (v :: ws).filterMap slot? = v.slot?.toList ++ ws.filterMap slot? := by
      cases hslot : v.slot? with
      | none => rw [List.filterMap_cons_none hslot]; rfl
      | some n => rw [List.filterMap_cons_some hslot]; rfl
    rw [hcons, ← ih fun w hw => h w (List.mem_cons_of_mem v hw)]
    cases ws with
    | nil =>
      have hlast := hbehind [] fun _ d hd => by cases hd
      rwa [List.append_nil] at hlast
    | cons w ws =>
      have hgap : '$' ∉ (if v.isTightAfter || w.isTightBefore then "" else " ").toList := by
        split <;> decide
      rw [join, String.append_assoc, String.toList_append,
        hbehind _ fun hv => head_behind hv w ws, String.toList_append, placeholders_append hgap]

end Word

/-- Whether a statement binds these values, and its text has one place for each, numbered on from
one in their order. -/
def Statement.Binds (s : Statement) (values : List Value) : Prop :=
  s.values = values ∧ placeholders s.text.toList = List.range' 1 values.length

theorem Statement.binds_ofPieces {ps : List Piece} (h : Piece.areKnown ps) :
    (ofPieces ps).Binds (ps.filterMap Piece.value?) := by
  refine ⟨rfl, ?_⟩
  rw [text, ofPieces, Word.placeholders_join fun w hw => Piece.mem_number h hw,
    Piece.filterMap_slot?_number h]

namespace Condition

theorem fits_eq (a : Attribute) (value : Attribute.Value) : fits a value = value.isOf a := by
  cases a <;> cases value <;> rfl

theorem areKnown_ofCompare (a : Attribute) (comparator : Comparator) (value : Attribute.Value) :
    Piece.areKnown (ofCompare a comparator value) := by
  rw [ofCompare]
  split
  · cases comparator <;> rfl
  · split <;> cases a <;> cases comparator <;> cases value <;> rfl

mutual

theorem areKnown_ofFilter (f : Filter) : Piece.areKnown (ofFilter f) := by
  cases f with
  | matchAll => rfl
  | compare a comparator value => exact areKnown_ofCompare a comparator value
  | pattern a text => cases a <;> rfl
  | group combinator clauses =>
    cases clauses with
    | nil => cases combinator <;> rfl
    | cons clause rest =>
      exact Piece.areKnown_append (areKnown_ofFilter clause)
        (Piece.areKnown_append (areKnown_further combinator rest) (by rfl))

theorem areKnown_further (combinator : Combinator) (clauses : List Filter) :
    Piece.areKnown (further combinator clauses) := by
  cases clauses with
  | nil => rfl
  | cons clause rest =>
    have hrest := Piece.areKnown_append (areKnown_ofFilter clause)
      (areKnown_further combinator rest)
    cases combinator <;> exact hrest

end

theorem map_word?_ofCompare (a : Attribute) (comparator : Comparator) (value : Attribute.Value) :
    (ofCompare a comparator value).map Piece.word? =
      (ofCompare a comparator value.blank).map Piece.word? := by
  have hfits : fits a value.blank = fits a value := by cases value <;> rfl
  have hbind : (bind value).word? = (bind value.blank).word? := by cases value <;> rfl
  rw [ofCompare, ofCompare, hfits]
  split
  · rfl
  · split <;> simp only [List.map_cons, hbind]

mutual

theorem map_word?_ofFilter (f : Filter) :
    (ofFilter f).map Piece.word? = (ofFilter f.blank).map Piece.word? := by
  cases f with
  | matchAll => rfl
  | compare a comparator value => exact map_word?_ofCompare a comparator value
  | pattern a text => rfl
  | group combinator clauses =>
    cases clauses with
    | nil => rfl
    | cons clause rest =>
      rw [Filter.blank, Filter.blankAll, ofFilter, ofFilter]
      simp only [List.map_cons, List.map_append, map_word?_ofFilter clause,
        map_word?_further combinator rest]

theorem map_word?_further (combinator : Combinator) (clauses : List Filter) :
    (further combinator clauses).map Piece.word? =
      (further combinator (Filter.blankAll clauses)).map Piece.word? := by
  cases clauses with
  | nil => rfl
  | cons clause rest =>
    rw [Filter.blankAll, further, further]
    simp only [List.map_cons, List.map_append, map_word?_ofFilter clause,
      map_word?_further combinator rest]

end

end Condition

namespace Expr

mutual

theorem bound_eq_parameters (f : Filter) : bound f = f.parameters := by
  cases f with
  | matchAll => rfl
  | pattern a text => rfl
  | compare a comparator value =>
    by_cases hfits : Condition.fits a value = true
    · have hof : value.isOf a = true := Condition.fits_eq a value ▸ hfits
      rw [bound_compare hfits, Filter.parameters, Filter.predicates]
      simp [Filter.parameter?, hof]
    · have hof : value.isOf a = false := Condition.fits_eq a value ▸ Bool.eq_false_iff.2 hfits
      rw [Bool.not_eq_true] at hfits
      have hnone : bound (.compare a comparator value) = [] := by
        rw [bound, Condition.ofFilter, Condition.ofCompare, hfits]
        rfl
      rw [hnone, Filter.parameters, Filter.predicates]
      simp [Filter.parameter?, hof]
  | group combinator clauses =>
    cases clauses with
    | nil => cases combinator <;> rfl
    | cons clause rest =>
      rw [bound_group, bound_eq_parameters clause, bound_further_eq combinator rest,
        Filter.parameters, Filter.parameters, ← List.filterMap_append, Filter.predicates,
        Filter.predicatesOfAll]

theorem bound_further_eq (combinator : Combinator) (clauses : List Filter) :
    (Condition.further combinator clauses).filterMap Piece.value? =
      (Filter.predicatesOfAll clauses).filterMap Filter.parameter? := by
  cases clauses with
  | nil => rfl
  | cons clause rest =>
    rw [bound_further, bound_eq_parameters clause, bound_further_eq combinator rest,
      Filter.parameters, ← List.filterMap_append, Filter.predicatesOfAll]

end

end Expr

namespace Customers

theorem areKnown_count (filter : Filter) (owner : String) :
    Piece.areKnown (countPieces filter owner) :=
  Piece.areKnown_append (by rfl) (Piece.areKnown_append (by rfl) (Condition.areKnown_ofFilter filter))

theorem areKnown_find (filter : Filter) (owner : String) (limit : Nat) :
    Piece.areKnown (findPieces filter owner limit) := by
  have hscope : Piece.areKnown (scope filter owner) :=
    Piece.areKnown_append (by rfl) (Condition.areKnown_ofFilter filter)
  have hcolumns : Piece.areKnown ([.keyword "SELECT"] ++
      (Word.separated (columns.map fun c => [.plain c])).map .word ++
      [.keyword "FROM", .keyword "customers"]) := by rfl
  have hbefore := Piece.areKnown_append hcolumns hscope
  exact Piece.areKnown_append (Piece.areKnown_append hbefore (by rfl)) (by rfl)

theorem text_count_blank (filter : Filter) (owner : String) :
    (count filter owner).statement.text = (count filter.blank "").statement.text := by
  refine congrArg Word.join (Piece.number_congr ?_ 1)
  simp only [countPieces, scope, List.map_append, Condition.map_word?_ofFilter filter]
  rfl

theorem text_find_blank (filter : Filter) (owner : String) (limit : Nat) :
    (find filter owner limit).statement.text = (find filter.blank "" 0).statement.text := by
  refine congrArg Word.join (Piece.number_congr ?_ 1)
  simp only [findPieces, scope, List.map_append, Condition.map_word?_ofFilter filter]
  rfl

/-- Of a filter only its groups, attributes, comparators and kinds of values show in the text of a
statement, and nothing of the account or the limit. The places in the text are numbered on from one,
and the values for them are the account, what the predicates are compared with from left to right,
and, where there is one, the limit as a whole number of 64 bits can say it. -/
theorem binds_in_order (f g : Filter) (owner owner' : String) (limit limit' : Nat) :
    (f.blank = g.blank →
      (count f owner).statement.text = (count g owner').statement.text ∧
      (find f owner limit).statement.text = (find g owner' limit').statement.text) ∧
    (count f owner).statement.Binds (.text owner :: f.parameters) ∧
    (find f owner limit).statement.Binds
      (.text owner :: (f.parameters ++ [.int (min limit Segmentation.Word.maxInt)])) := by
  refine ⟨fun h => ⟨?_, ?_⟩, ?_, ?_⟩
  · rw [text_count_blank f, text_count_blank g, h]
  · rw [text_find_blank f, text_find_blank g, h]
  · have hbinds := Statement.binds_ofPieces (areKnown_count f owner)
    have hvalues := values_count f owner
    rw [List.append_nil, Expr.bound_eq_parameters] at hvalues
    rw [← hvalues]
    exact hbinds
  · have hbinds := Statement.binds_ofPieces (areKnown_find f owner limit)
    rw [← Expr.bound_eq_parameters, ← values_find]
    exact hbinds

def searchFor (text : String) : Filter :=
  .group .or [.compare .visits .ne (.number 3), .compare .spend .gt (.timestamp default),
    .pattern .spend text]

theorem binds_in_order_escape :
    (searchFor "$1'; --").blank = (searchFor "5").blank ∧
      (count (searchFor "$1'; --") "a' OR 'a'='a").statement.text =
        (count (searchFor "5") "shop").statement.text ∧
      (count (searchFor "$1'; --") "a' OR 'a'='a").statement.Binds
        [.text "a' OR 'a'='a", .float 3, .text "$1'; --"] := by
  have h : (searchFor "$1'; --").blank = (searchFor "5").blank := rfl
  obtain ⟨htext, hbinds, -⟩ := binds_in_order (searchFor "$1'; --") (searchFor "5")
    "a' OR 'a'='a" "shop" 10 20
  exact ⟨h, (htext h).1, hbinds⟩

/-- A limit beyond a whole number of 64 bits is not bound as it is. -/
theorem values_find_beyond :
    (find .matchAll "shop" 0xFFFFFFFFFFFFFFFF).statement.values.getLast? ≠
      some (.int 0xFFFFFFFFFFFFFFFF) := by
  rw [values_find]
  intro h
  have hlimit : (min 0xFFFFFFFFFFFFFFFF Segmentation.Word.maxInt : Int) = 0xFFFFFFFFFFFFFFFF :=
    Value.int.inj (Option.some.inj h)
  exact absurd hlimit (by decide)

end Customers

end Sql

end Segmentation
