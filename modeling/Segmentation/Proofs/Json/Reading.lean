import Segmentation.Proofs.Json.Text

namespace Segmentation.Json

/-- The values that may be read where `n` of at most `limit` arrays and objects are open. -/
inductive IsRead (limit : Nat) : Nat → Json → Prop
  | null {n : Nat} : IsRead limit n .null
  | bool {n : Nat} (b : Bool) : IsRead limit n (.bool b)
  | number {n : Nat} {i : Int} (fits : Word.minInt ≤ i ∧ i ≤ Word.maxNat) : IsRead limit n (.int i)
  | float {n : Nat} {x : Float} (finite : Binary64.isFinite x) : IsRead limit n (.num x)
  | text {n : Nat} (s : String) : IsRead limit n (.str s)
  | array {n : Nat} {items : List Json} (opens : n < limit)
    (read : ∀ j ∈ items, IsRead limit (n + 1) j) : IsRead limit n (.arr items)
  | object {n : Nat} {members : List (String × Json)} (opens : n < limit)
    (ordered : members.Pairwise fun m m' => m.1 < m'.1)
    (read : ∀ m ∈ members, IsRead limit (n + 1) m.2) : IsRead limit n (.obj members)

section Members

variable {key : String} {value : Json} {members : List (String × Json)}

theorem mem_insertMember {m : String × Json} (h : m ∈ insertMember key value members) :
    m = (key, value) ∨ m ∈ members := by
  induction members with
  | nil => exact .inl (List.mem_singleton.1 h)
  | cons first rest ih =>
    obtain ⟨k, v⟩ := first
    rw [insertMember] at h
    split at h
    · exact (List.mem_cons.1 h).imp_right (List.mem_cons_of_mem _)
    · split at h
      · exact List.mem_cons.1 h
      · rcases List.mem_cons.1 h with rfl | h
        · exact .inr List.mem_cons_self
        · exact (ih h).imp_right (List.mem_cons_of_mem _)

theorem pairwise_insertMember (h : members.Pairwise fun m m' => m.1 < m'.1) :
    (insertMember key value members).Pairwise fun m m' => m.1 < m'.1 := by
  induction members with
  | nil => exact List.pairwise_singleton _ _
  | cons first rest ih =>
    obtain ⟨k, v⟩ := first
    obtain ⟨hfirst, hrest⟩ := List.pairwise_cons.1 h
    rw [insertMember]
    split
    · next heq =>
      subst heq
      exact List.pairwise_cons.2 ⟨hfirst, hrest⟩
    · next hne =>
      split
      · next hlt =>
        refine List.pairwise_cons.2 ⟨fun m hm => ?_, h⟩
        rcases List.mem_cons.1 hm with rfl | hm
        · exact hlt
        · exact String.lt_trans hlt (hfirst m hm)
      · next hnot =>
        have hlt : k < key := Std.lt_of_le_of_ne (String.not_lt.1 hnot) (Ne.symm hne)
        refine List.pairwise_cons.2 ⟨fun m hm => ?_, ih hrest⟩
        rcases mem_insertMember hm with rfl | hm
        · exact hlt
        · exact hfirst m hm

theorem insertMember_of_lt (h : ∀ m ∈ members, m.1 < key) :
    insertMember key value members = members ++ [(key, value)] := by
  induction members with
  | nil => rfl
  | cons first rest ih =>
    obtain ⟨k, v⟩ := first
    obtain ⟨hlt, hrest⟩ := List.forall_mem_cons.1 h
    have hne : key ≠ k := by
      rintro rfl
      exact String.lt_irrefl _ hlt
    have hnot : ¬key < k := fun hgt => String.lt_irrefl _ (String.lt_trans hlt hgt)
    rw [insertMember, if_neg hne, if_neg hnot, ih hrest, List.cons_append]

theorem sortedMembers_eq_append {done : List (String × Json)}
    (h : (done ++ members).Pairwise fun m m' => m.1 < m'.1)
    (hsorted : ∀ m ∈ members, m.2.sorted = m.2) : sortedMembers done members = done ++ members := by
  induction members generalizing done with
  | nil => rw [sortedMembers, List.append_nil]
  | cons first rest ih =>
    obtain ⟨k, v⟩ := first
    obtain ⟨hv, hrest⟩ := List.forall_mem_cons.1 hsorted
    have hlast : ∀ m ∈ done, m.1 < k := fun m hm =>
      (List.pairwise_append.1 h).2.2 m hm (k, v) List.mem_cons_self
    rw [List.append_cons] at h ⊢
    rw [sortedMembers, hv, insertMember_of_lt hlast]
    exact ih h hrest

end Members

namespace IsRead

variable {limit n : Nat} {v : Json}

theorem isProper (h : IsRead limit n v) : v.isProper = true := by
  induction h with
  | null | bool | text => rfl
  | number fits => simpa [Json.isProper] using fits
  | float finite => exact finite
  | array opens read ih =>
    rw [Json.isProper, areProper_eq_true_iff]
    exact ih
  | object opens ordered read ih =>
    rw [Json.isProper, areProperMembers_eq_true_iff]
    exact ih

theorem depth_le (h : IsRead limit n v) : v.depth ≤ limit - n := by
  induction h with
  | null | bool | number | float | text => exact Nat.zero_le _
  | @array n items opens read ih =>
    have hitems := depthOfItems_le ih
    rw [Json.depth]
    omega
  | @object n members opens ordered read ih =>
    have hmembers := depthOfMembers_le ih
    rw [Json.depth]
    omega

theorem sorted_eq (h : IsRead limit n v) : v.sorted = v := by
  induction h with
  | null | bool | number | float | text => rfl
  | @array n items opens read ih =>
    rw [sorted, sortedItems_eq, List.map_congr_left ih, List.map_id']
  | @object n members opens ordered read ih =>
    have happend : sortedMembers [] members = [] ++ members := sortedMembers_eq_append ordered ih
    rw [sorted, happend, List.nil_append]

theorem isKept {keeps : Float → Prop} (hkeeps : ∀ x, Binary64.isFinite x → keeps x)
    (h : IsRead limit n v) : v.IsKept keeps := by
  induction h with
  | null => exact .null
  | bool b => exact .bool b
  | number fits => exact .int fits
  | float finite => exact .num (hkeeps _ finite)
  | text s => exact .str s
  | array opens read ih => exact .arr ih
  | object opens ordered read ih => exact .obj ih

theorem of_isNumber (h : v.IsNumber) : IsRead limit n v := by
  cases h with
  | int fits => exact .number fits
  | num finite => exact .float finite

end IsRead

def Frame.IsRead (limit n : Nat) : Frame → Prop
  | .array reversed => ∀ j ∈ reversed, Json.IsRead limit (n + 1) j
  | .object members _ =>
    (members.Pairwise fun m m' => m.1 < m'.1) ∧ ∀ m ∈ members, Json.IsRead limit (n + 1) m.2

namespace ReaderState

/-- What is unfinished, the innermost first, below which the others are open. -/
inductive AreRead (limit : Nat) : List Frame → Prop
  | nil : AreRead limit []
  | cons {frame : Frame} {below : List Frame} (opens : below.length < limit)
    (read : frame.IsRead limit below.length) (rest : AreRead limit below) :
    AreRead limit (frame :: below)

def Outcome.IsRead (limit : Nat) : Outcome → Prop
  | .done value => Json.IsRead limit 0 value
  | .more s => AreRead limit s.stack

variable {limit : Nat} {s : ReaderState} {token : Token} {outcome : Outcome}

theorem isRead_place {value : Json} {stack : List Frame} (hstack : AreRead limit stack)
    (hvalue : Json.IsRead limit stack.length value) : (place value stack).IsRead limit := by
  cases hstack with
  | nil => exact hvalue
  | @cons frame below opens read rest =>
    cases frame with
    | array reversed => exact .cons opens (List.forall_mem_cons.2 ⟨hvalue, read⟩) rest
    | object members key =>
      obtain ⟨ordered, read⟩ := read
      refine .cons opens ⟨pairwise_insertMember ordered, fun m hm => ?_⟩ rest
      rcases mem_insertMember hm with rfl | hm
      · exact hvalue
      · exact read m hm

theorem isRead_enter {frame : Frame} {expect : Expect} (hs : AreRead limit s.stack)
    (hframe : frame.IsRead limit s.stack.length) (h : s.enter limit frame expect = some outcome) :
    outcome.IsRead limit := by
  rw [enter] at h
  split at h
  · next opens =>
    cases h
    exact .cons opens hframe hs
  · cases h

theorem isRead_beginValue (hs : AreRead limit s.stack) (htoken : token.IsProper)
    (h : s.beginValue limit token = some outcome) : outcome.IsRead limit := by
  cases token with
  | openArray => exact isRead_enter hs (fun _ hj => absurd hj List.not_mem_nil) h
  | openObject =>
    have hframe : (Frame.object [] "").IsRead limit s.stack.length :=
      ⟨.nil, fun _ hm => absurd hm List.not_mem_nil⟩
    exact isRead_enter hs hframe h
  | null =>
    cases h
    exact isRead_place hs .null
  | bool b =>
    cases h
    exact isRead_place hs (.bool b)
  | number value =>
    obtain ⟨v, rfl, hplace⟩ := Option.map_eq_some_iff.1 h
    rw [← hplace]
    exact isRead_place hs (.of_isNumber htoken)
  | text value =>
    obtain ⟨v, rfl, hplace⟩ := Option.map_eq_some_iff.1 h
    rw [← hplace]
    exact isRead_place hs (.text v)
  | closeArray | closeObject | colon | comma | fault => cases h

theorem isRead_closeArray {reversed : List Json} {stack : List Frame}
    (h : AreRead limit (.array reversed :: stack)) :
    (place (.arr reversed.reverse) stack).IsRead limit := by
  cases h with
  | cons opens read rest =>
    exact isRead_place rest (.array opens fun j hj => read j (List.mem_reverse.1 hj))

theorem isRead_closeObject {members : List (String × Json)} {key : String} {stack : List Frame}
    (h : AreRead limit (.object members key :: stack)) :
    (place (.obj members) stack).IsRead limit := by
  cases h with
  | cons opens read rest => exact isRead_place rest (.object opens read.1 read.2)

theorem isRead_step (hs : AreRead limit s.stack) (htoken : token.IsProper)
    (h : s.step limit token = some outcome) : outcome.IsRead limit := by
  -- A token begins a value, ends an array or an object, or stands between values.
  obtain ⟨stack, expect⟩ := s
  rw [step.eq_def] at h
  dsimp only at h hs
  split at h
  case h_2 | h_3 => exact isRead_beginValue hs htoken h
  case h_1 | h_8 =>
    cases h
    exact isRead_closeArray hs
  case h_4 | h_10 =>
    cases h
    exact isRead_closeObject hs
  case h_5 | h_6 =>
    cases h
    cases hs with
    | cons opens read rest => exact .cons opens read rest
  case h_7 | h_9 | h_11 =>
    cases h
    exact hs
  case h_12 => cases h

theorem isRead_run {ts rest : List Token} {value : Json} (hs : AreRead limit s.stack)
    (hts : ∀ token ∈ ts, token.IsProper) (h : s.run limit ts = some (value, rest)) :
    Json.IsRead limit 0 value := by
  induction ts generalizing s with
  | nil => cases h
  | cons token ts ih =>
    obtain ⟨htoken, hts⟩ := List.forall_mem_cons.1 hts
    rw [run] at h
    split at h
    · cases h
    · next hstep =>
      cases h
      exact isRead_step hs htoken hstep
    · next hstep => exact ih (isRead_step hs htoken hstep) hts h

end ReaderState

theorem isRead_of_read? {limit : Nat} {s : String} {v : Json} (h : read? limit s = some v) :
    v.IsRead limit 0 := by
  rw [read?] at h
  split at h
  · next hvalue =>
    cases h
    exact ReaderState.isRead_run .nil (fun _ htoken => Token.isProper_of_mem_scan htoken) hvalue
  · cases h

theorem isProper_of_read? {limit : Nat} {s : String} {v : Json} (h : read? limit s = some v) :
    v.isProper = true :=
  (isRead_of_read? h).isProper

/-- A value that was read from a text is held by every codec that keeps the finite numbers and goes
as deep, and it comes back as it is. -/
theorem Codec.holds_of_read? {codec : Codec} (hkeeps : ∀ x, Binary64.isFinite x → codec.keeps x)
    {limit : Nat} (hlimit : limit ≤ codec.depth) {s : String} {v : Json}
    (h : Json.read? limit s = some v) : codec.Holds v ∧ codec.read? v.write = some v := by
  have hread := isRead_of_read? h
  have holds : codec.Holds v := ⟨hread.isKept hkeeps, Nat.le_trans hread.depth_le hlimit⟩
  exact ⟨holds, holds.read?_write.trans (congrArg some hread.sorted_eq)⟩

end Segmentation.Json
