import Segmentation.Proofs.Instant.Text
import Segmentation.Proofs.Rule.Meaning

namespace Segmentation

/-- Whether a text stands somewhere in another, characters that are folded into one being the
same. -/
def Text.IsFoundIn (fold : Char → Char) (wanted text : String) : Prop :=
  ∃ found, found <:+: text.toList ∧ wanted.toList.map fold = found.map fold

theorem Text.isFoundIn_self (fold : Char → Char) (s : String) : IsFoundIn fold s s :=
  ⟨s.toList, List.infix_rfl, rfl⟩

theorem Filter.Pattern.occursIn_iff {wanted text : List Char} : occursIn wanted text ↔
    ∃ found, found <:+: text ∧ wanted.map Char.toLower = found.map Char.toLower := by
  induction text with
  | nil => simp [occursIn]
  | cons c rest ih =>
    rw [occursIn, Bool.or_eq_true, ih, List.isPrefixOf_iff_prefix, List.prefix_map_iff]
    simp only [List.infix_cons_iff, or_and_right, exists_or]

namespace Attribute.Value

def alphabet : List Char :=
  "0123456789+-.:NTafin".toList

def IsWritten (s : String) : Prop :=
  ∀ c ∈ s.toList, c ∈ alphabet

instance (s : String) : Decidable (IsWritten s) :=
  List.decidableBAll (· ∈ alphabet) s.toList

@[simp] theorem isWritten_append {s t : String} :
    IsWritten (s ++ t) ↔ IsWritten s ∧ IsWritten t := by
  simp only [IsWritten, String.toList_append, List.mem_append, or_imp, forall_and]

theorem mem_alphabet_of_isDigit {c : Char} (h : c.isDigit) : c ∈ alphabet := by
  obtain ⟨hlow, hhigh⟩ := Char.isDigit_iff_toNat.1 h
  change 48 ≤ c.toNat at hlow
  change c.toNat ≤ 57 at hhigh
  have hdigits : ∀ n < 58, 48 ≤ n → Char.ofNat n ∈ alphabet := by decide
  rw [← Char.ofNat_toNat c]
  exact hdigits c.toNat (Nat.lt_succ_of_le hhigh) hlow

@[simp] theorem isWritten_toString (n : Nat) : IsWritten (toString n) := by
  intro c hc
  rw [Nat.toString_eq_repr, Nat.toList_repr] at hc
  exact mem_alphabet_of_isDigit (Nat.isDigit_of_mem_toDigits (by decide) (by decide) hc)

@[simp] theorem isWritten_zeros (n : Nat) : IsWritten (String.ofList (List.replicate n '0')) := by
  intro c hc
  rw [String.toList_ofList] at hc
  rw [List.eq_of_mem_replicate hc]
  decide

@[simp] theorem isWritten_padded (width n : Nat) : IsWritten (Instant.padded width n) := by
  intro c hc
  exact mem_alphabet_of_isDigit (Instant.isDigit_of_mem_padded width n hc)

theorem isWritten_positional {digits : String} (h : IsWritten digits) (place : Int) :
    IsWritten (Decimal.Style.plain.positional digits place) := by
  rw [Decimal.Style.positional]
  split
  · simp only [isWritten_append, isWritten_zeros, h, and_true]
    decide
  · split
    · simp only [isWritten_append, isWritten_zeros, h, true_and]
      decide
    · simp only [isWritten_append]
      refine ⟨⟨fun c hc => ?_, by decide⟩, fun c hc => ?_⟩
      · rw [String.toList_ofList] at hc
        exact h c (List.mem_of_mem_take hc)
      · rw [String.toList_ofList] at hc
        exact h c (List.mem_of_mem_drop hc)

theorem isWritten_number (x : Float) : IsWritten (Decimal.Style.plain.write x) := by
  rw [Decimal.Style.write]
  split
  · rw [isWritten_append, Decimal.Style.magnitude]
    refine ⟨by split <;> decide, ?_⟩
    split
    · decide
    · exact isWritten_positional (isWritten_toString _) _
  · split
    · decide
    · split <;> decide

@[simp] theorem isWritten_year (year : Int) : IsWritten (Instant.writeYear year) := by
  have hsigns : IsWritten "-" ∧ IsWritten "+" := by decide
  rw [Instant.writeYear]
  split
  · simp [hsigns]
  · split <;> simp [hsigns]

@[simp] theorem isWritten_fraction (nanos : Nat) : IsWritten (Instant.writeFraction nanos) := by
  have hpoint : IsWritten "." := by decide
  rw [Instant.writeFraction]
  split
  · decide
  · split
    · simp [hpoint]
    · split <;> simp [hpoint]

theorem isWritten_instant (t : Instant) : IsWritten t.writeWithOffset := by
  have hmarks : IsWritten "-" ∧ IsWritten "T" ∧ IsWritten ":" ∧ IsWritten "+00:00" := by decide
  simp [Instant.writeWithOffset, Instant.writeLocal, hmarks]

theorem isWritten_text (v : Attribute.Value) : IsWritten v.text := by
  cases v with
  | number x => exact isWritten_number x
  | timestamp t => exact isWritten_instant t

/-- A way of taking the two cases of a letter for one. It does so with the characters that values
are written with, and takes no other character for one of them; what else it does is left open. -/
def FoldsCase (fold : Char → Char) : Prop :=
  ∀ c, ∀ d ∈ alphabet, fold c = fold d ↔ c.toLower = d.toLower

theorem FoldsCase.map_eq_map_iff {fold : Char → Char} (h : FoldsCase fold)
    {wanted found : List Char} (hfound : ∀ d ∈ found, d ∈ alphabet) :
    wanted.map fold = found.map fold ↔ wanted.map Char.toLower = found.map Char.toLower := by
  induction wanted generalizing found with
  | nil => simp [eq_comm]
  | cons c wanted ih =>
    cases found with
    | nil => simp
    | cons d found =>
      rw [List.forall_mem_cons] at hfound
      simp [h c d hfound.1, ih hfound.2]

theorem isFoundIn_text {fold : Char → Char} (h : FoldsCase fold) (wanted : String)
    (v : Attribute.Value) : Filter.Pattern.occursIn wanted.toList v.text.toList ↔
      Text.IsFoundIn fold wanted v.text := by
  rw [Filter.Pattern.occursIn_iff]
  refine exists_congr fun found => and_congr_right fun hfound => ?_
  rw [h.map_eq_map_iff fun d hd => isWritten_text v d (hfound.subset hd)]

end Attribute.Value

namespace Rule

open Attribute.Value (FoldsCase isFoundIn_text)

def searchFor (field : Field) (operand : Operand) : Node :=
  .condition ⟨some field, some .contains, some operand⟩

theorem selects_searchFor {field : Field} {a : Attribute} (direct : field.source = .direct a)
    (now : Instant) (record : Record) (operand : Operand) :
    ((searchFor field operand).compile now).selects record = (record a).any fun actual =>
      Filter.Pattern.occursIn operand.toText.toList actual.text.toList := by
  have hcompile : (searchFor field operand).compile now =
      .pattern a (Filter.Pattern.escape operand.toText) := by
    rw [searchFor, Node.compile, Node.compile?, Condition.compile]
    simp only [Operator.comparator?, Condition.compileSearch, direct]
    rfl
  rw [hcompile, Filter.selects, Filter.patternHolds]
  simp only [Condition.occurs_escape]

theorem ofJson_search (field : Field) {wanted : String} (h : Text.isBlankText wanted = false) :
    Node.ofJson (.obj [("field", .str field.name), ("operator", .str "contains"),
      ("value", .str wanted)]) = searchFor field (.text wanted) := by
  have hoperand : Operand.ofJson? (.str wanted) = some (.text wanted) := by
    rw [Operand.ofJson?, h]
    rfl
  change Node.condition ⟨(some field.name).bind Field.ofName?, Operator.ofSymbol? "contains",
    Operand.ofJson? (.str wanted)⟩ = _
  rw [Option.bind_some, Field.ofName?_name, hoperand]
  rfl

/-- The rule that a field contains a text is true of the records that have a value there in which
the text stands as it is, letters of either case being the same, whatever characters it is made of,
even none; as JSON it can be written unless it is blank. A number is searched for as it is written,
and so is always found in itself. -/
theorem search_is_literal {fold : Char → Char} (hfold : FoldsCase fold) {field : Field}
    {a : Attribute} (direct : field.source = .direct a) (now : Instant) (record : Record) :
    (∀ wanted : String,
      (((searchFor field (.text wanted)).compile now).selects record ↔
        ∃ actual, record a = some actual ∧ Text.IsFoundIn fold wanted actual.text) ∧
      (Text.isBlankText wanted = false →
        compileRules now (.obj [("field", .str field.name), ("operator", .str "contains"),
          ("value", .str wanted)]) = (searchFor field (.text wanted)).compile now)) ∧
    ∀ x : Float,
      (((searchFor field (.number x)).compile now).selects record ↔
        ∃ actual, record a = some actual ∧
          Text.IsFoundIn fold (Attribute.Value.number x).text actual.text) ∧
      (record a = some (.number x) →
        ((searchFor field (.number x)).compile now).selects record) := by
  have hselects (operand : Operand) : ((searchFor field operand).compile now).selects record ↔
      ∃ actual, record a = some actual ∧ Text.IsFoundIn fold operand.toText actual.text := by
    rw [selects_searchFor direct, Option.any_eq_true]
    refine exists_congr fun actual => and_congr_right fun _ => ?_
    exact isFoundIn_text hfold operand.toText actual
  refine ⟨fun wanted => ⟨hselects (.text wanted), fun h => ?_⟩, fun x => ⟨hselects (.number x), ?_⟩⟩
  · rw [compileRules, ofJson_search field h]
  · intro hrecord
    exact (hselects (.number x)).2 ⟨_, hrecord, Text.isFoundIn_self fold _⟩

def foldBeyondAscii (c : Char) : Char :=
  if c = Char.ofNat 0x212A then 'k' else if c = Char.ofNat 0x17F then 's' else c.toLower

theorem foldsCase_foldBeyondAscii : FoldsCase foldBeyondAscii := by
  have hvalues : Attribute.Value.alphabet.all fun d => foldBeyondAscii d = d.toLower ∧
      d.toLower ≠ 'k' ∧ d.toLower ≠ 's' ∧
      (Char.ofNat 0x212A).toLower ≠ d.toLower ∧ (Char.ofNat 0x17F).toLower ≠ d.toLower := by decide
  intro c d hd
  obtain ⟨hfold, hk, hs, hkelvin, hlong⟩ := of_decide_eq_true (List.all_eq_true.1 hvalues d hd)
  rw [hfold, foldBeyondAscii]
  split
  · next h => exact iff_of_false hk.symm (h ▸ hkelvin)
  · split
    · next h => exact iff_of_false hs.symm (h ▸ hlong)
    · rfl

def recordOfNaN : Record
  | .visits => some (.number Binary64.nan)
  | _ => none

/-- A text of two letters is found in the value that is no number, in which letters of the other
case stand; nothing is found in a value that is absent. -/
theorem search_is_literal_nan :
    (FoldsCase foldBeyondAscii ∧ Field.visits.source = .direct .visits ∧
      Text.isBlankText "An" = false ∧ recordOfNaN .visits = some (.number Binary64.nan)) ∧
    ((searchFor .visits (.text "An")).compile default).selects recordOfNaN ∧
    (compileRules default (.obj [("field", .str "visits"), ("operator", .str "contains"),
      ("value", .str "An")])).selects recordOfNaN ∧
    ((searchFor .visits (.number Binary64.nan)).compile default).selects recordOfNaN ∧
    ¬((searchFor .spend (.text "")).compile default).selects recordOfNaN := by
  have hblank : Text.isBlankText "An" = false := by decide +kernel
  have hfound : Text.IsFoundIn foldBeyondAscii "An" (Attribute.Value.number Binary64.nan).text :=
    ⟨['a', 'N'], by decide +kernel, by decide⟩
  have hvisits : Field.visits.source = .direct .visits := rfl
  have hspend : Field.spend.source = .direct .spend := rfl
  obtain ⟨htext, hnumber⟩ :=
    search_is_literal foldsCase_foldBeyondAscii hvisits default recordOfNaN
  obtain ⟨habsent, -⟩ := search_is_literal foldsCase_foldBeyondAscii hspend default recordOfNaN
  have hselects := (htext "An").1.2 ⟨_, rfl, hfound⟩
  refine ⟨⟨foldsCase_foldBeyondAscii, rfl, hblank, rfl⟩, hselects, ?_, (hnumber _).2 rfl, ?_⟩
  · have hcompile := (htext "An").2 hblank
    rw [show Field.visits.name = "visits" from rfl] at hcompile
    rw [hcompile]
    exact hselects
  · intro h
    obtain ⟨actual, hactual, -⟩ := (habsent "").1.1 h
    cases hactual

end Rule

end Segmentation
