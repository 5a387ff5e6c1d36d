import Segmentation.Proofs.Json.Token

namespace Segmentation.Json

mutual

/-- How many arrays and objects stand inside one another. -/
def depth : Json → Nat
  | .arr items => depthOfItems items + 1
  | .obj members => depthOfMembers members + 1
  | _ => 0
termination_by structural j => j

def depthOfItems : List Json → Nat
  | [] => 0
  | j :: rest => max (depth j) (depthOfItems rest)
termination_by structural items => items

def depthOfMembers : List (String × Json) → Nat
  | [] => 0
  | (_, j) :: rest => max (depth j) (depthOfMembers rest)
termination_by structural members => members

end

mutual

/-- A value with the members of every object in the order of their keys; of a repeated key the last
member is left. -/
def sorted : Json → Json
  | .arr items => .arr (sortedItems items)
  | .obj members => .obj (sortedMembers [] members)
  | j => j
termination_by structural j => j

def sortedItems : List Json → List Json
  | [] => []
  | j :: rest => sorted j :: sortedItems rest
termination_by structural items => items

def sortedMembers (done : List (String × Json)) : List (String × Json) → List (String × Json)
  | [] => done
  | (key, j) :: rest => sortedMembers (insertMember key (sorted j) done) rest
termination_by structural members => members

end

theorem sortedItems_eq (items : List Json) : sortedItems items = items.map sorted := by
  induction items with
  | nil => rfl
  | cons j rest ih => rw [sortedItems, ih, List.map_cons]

theorem depth_le_of_mem_items {items : List Json} {j : Json} (h : j ∈ items) :
    j.depth ≤ depthOfItems items := by
  induction items with
  | nil => cases h
  | cons first rest ih =>
    rw [depthOfItems]
    rcases List.mem_cons.1 h with rfl | h
    · exact Nat.le_max_left _ _
    · exact Nat.le_trans (ih h) (Nat.le_max_right _ _)

theorem depthOfItems_le {items : List Json} {bound : Nat} (h : ∀ j ∈ items, j.depth ≤ bound) :
    depthOfItems items ≤ bound := by
  induction items with
  | nil => exact Nat.zero_le bound
  | cons first rest ih =>
    obtain ⟨hfirst, hrest⟩ := List.forall_mem_cons.1 h
    exact Nat.max_le.2 ⟨hfirst, ih hrest⟩

theorem depthOfMembers_eq (members : List (String × Json)) :
    depthOfMembers members = depthOfItems (members.map Prod.snd) := by
  induction members with
  | nil => rfl
  | cons first rest ih => rw [depthOfMembers, List.map_cons, depthOfItems, ih]

theorem depth_le_of_mem_members {members : List (String × Json)} {m : String × Json}
    (h : m ∈ members) : m.2.depth ≤ depthOfMembers members := by
  rw [depthOfMembers_eq]
  exact depth_le_of_mem_items (List.mem_map_of_mem h)

theorem depthOfMembers_le {members : List (String × Json)} {bound : Nat}
    (h : ∀ m ∈ members, m.2.depth ≤ bound) : depthOfMembers members ≤ bound := by
  rw [depthOfMembers_eq]
  exact depthOfItems_le (List.forall_mem_map.2 h)

namespace ReaderState

def AwaitsValue (s : ReaderState) : Prop :=
  s.expect = .value ∨
    s.expect = .valueOrClose ∧ ∃ reversed stack, s.stack = .array reversed :: stack

def Outcome.run (depth : Nat) (o : Outcome) (ts : List Token) : Option (Json × List Token) :=
  match o with
  | .done value => some (value, ts)
  | .more s => s.run depth ts

theorem run_cons {depth : Nat} {s : ReaderState} {token : Token} {outcome : Outcome}
    (h : s.step depth token = some outcome) (ts : List Token) :
    s.run depth (token :: ts) = outcome.run depth ts := by
  rw [run, h]
  cases outcome <;> rfl

/-- Whether the tokens of a value are read as the value wherever one may come. -/
def Takes (depth : Nat) (v : Json) : Prop :=
  ∀ s : ReaderState, s.AwaitsValue → s.stack.length + v.depth ≤ depth → ∀ rest,
    s.run depth (v.toTokens ++ rest) = (place v.sorted s.stack).run depth rest

section Take

variable {depth : Nat} {s : ReaderState}

theorem step_of_awaitsValue (h : s.AwaitsValue) {token : Token} (hne : token ≠ .closeArray) :
    s.step depth token = s.beginValue depth token := by
  obtain ⟨stack, expect⟩ := s
  rcases h with h | ⟨h, reversed, below, hstack⟩
  · cases h
    rfl
  · cases h
    cases hstack
    rw [step.eq_def]
    cases token with
    | closeArray => exact absurd rfl hne
    | _ => rfl

theorem takes_of_one {v : Json} {token : Token} (htokens : v.toTokens = [token])
    (hne : token ≠ .closeArray)
    (hbegin : ∀ s, beginValue depth s token = some (place v.sorted s.stack)) : Takes depth v := by
  intro s hs _ rest
  rw [htokens]
  exact run_cons ((step_of_awaitsValue hs hne).trans (hbegin s)) rest

theorem run_items {items : List Json} (h : ∀ j ∈ items, Takes depth j) (hne : items ≠ [])
    {reversed : List Json} {stack : List Frame} {expect : Expect}
    (hs : AwaitsValue ⟨.array reversed :: stack, expect⟩)
    (hdepth : stack.length + 1 + depthOfItems items ≤ depth) (rest : List Token) :
    run depth ⟨.array reversed :: stack, expect⟩
        ([.comma].intercalate (items.map toTokens) ++ .closeArray :: rest) =
      (place (.arr (reversed.reverse ++ items.map sorted)) stack).run depth rest := by
  induction items generalizing reversed expect with
  | nil => exact absurd rfl hne
  | cons j items ih =>
    obtain ⟨hj, hitems⟩ := List.forall_mem_cons.1 h
    rw [depthOfItems] at hdepth
    have htake := hj ⟨.array reversed :: stack, expect⟩ hs (by simp; omega)
    cases items with
    | nil =>
      have hclose : step depth ⟨.array (j.sorted :: reversed) :: stack, .separator⟩ .closeArray =
          some (place (.arr (j.sorted :: reversed).reverse) stack) := rfl
      rw [List.map_singleton, List.intercalate_singleton, htake]
      refine (run_cons hclose rest).trans ?_
      rw [List.reverse_cons]
      rfl
    | cons k items =>
      have hcomma : step depth ⟨.array (j.sorted :: reversed) :: stack, .separator⟩ .comma =
          some (.more ⟨.array (j.sorted :: reversed) :: stack, .value⟩) := rfl
      rw [List.map_cons, List.map_cons, List.intercalate_cons_cons, List.append_assoc,
        List.append_assoc, htake]
      refine (run_cons hcomma _).trans ?_
      refine (ih hitems (List.cons_ne_nil _ _) (.inl rfl) (by omega)).trans ?_
      rw [List.reverse_cons, List.append_assoc]
      rfl

theorem run_members {members : List (String × Json)} (h : ∀ m ∈ members, Takes depth m.2)
    (hne : members ≠ []) {done : List (String × Json)} {key : String} {stack : List Frame}
    {expect : Expect} (hexpect : expect = .key ∨ expect = .keyOrClose)
    (hdepth : stack.length + 1 + depthOfMembers members ≤ depth) (rest : List Token) :
    run depth ⟨.object done key :: stack, expect⟩
        ([.comma].intercalate
          (members.map fun m => .text (some m.1) :: .colon :: m.2.toTokens) ++
          .closeObject :: rest) =
      (place (.obj (sortedMembers done members)) stack).run depth rest := by
  induction members generalizing done key expect with
  | nil => exact absurd rfl hne
  | cons m members ih =>
    obtain ⟨name, v⟩ := m
    obtain ⟨hv, hmembers⟩ := List.forall_mem_cons.1 h
    rw [depthOfMembers] at hdepth
    have hname : step depth ⟨.object done key :: stack, expect⟩ (.text (some name)) =
        some (.more ⟨.object done name :: stack, .colon⟩) := by
      rcases hexpect with rfl | rfl <;> rfl
    have hcolon : step depth ⟨.object done name :: stack, .colon⟩ .colon =
        some (.more ⟨.object done name :: stack, .value⟩) := rfl
    -- The name, its colon and its value, whatever comes behind them.
    have htake (ts : List Token) : run depth ⟨.object done key :: stack, expect⟩
        (.text (some name) :: .colon :: (v.toTokens ++ ts)) =
        run depth ⟨.object (insertMember name v.sorted done) name :: stack, .separator⟩ ts := by
      refine (run_cons hname _).trans ((run_cons hcolon _).trans ?_)
      exact hv ⟨.object done name :: stack, .value⟩ (.inl rfl) (by simp; omega) ts
    cases members with
    | nil =>
      have hclose : step depth
          ⟨.object (insertMember name v.sorted done) name :: stack, .separator⟩ .closeObject =
          some (place (.obj (insertMember name v.sorted done)) stack) := rfl
      rw [List.map_singleton, List.intercalate_singleton]
      exact (htake _).trans (run_cons hclose rest)
    | cons m members =>
      have hcomma : step depth
          ⟨.object (insertMember name v.sorted done) name :: stack, .separator⟩ .comma =
          some (.more ⟨.object (insertMember name v.sorted done) name :: stack, .key⟩) := rfl
      rw [List.map_cons, List.map_cons, List.intercalate_cons_cons, List.append_assoc,
        List.append_assoc]
      refine (htake _).trans ((run_cons hcomma _).trans ?_)
      exact ih hmembers (List.cons_ne_nil _ _) (.inl rfl) (by omega)

theorem takes_of_isKept {v : Json} (h : v.IsKept KeepsNumber) : Takes depth v := by
  induction h with
  | null => exact takes_of_one rfl (by simp) fun _ => rfl
  | bool b => exact takes_of_one rfl (by simp) fun _ => rfl
  | int fits => exact takes_of_one rfl (by simp) fun _ => rfl
  | num kept => exact takes_of_one rfl (by simp) fun _ => rfl
  | str s => exact takes_of_one rfl (by simp) fun _ => rfl
  | @arr items kept ih =>
    intro s hs hdepth rest
    rw [Json.depth] at hdepth
    have hopen : s.step depth .openArray =
        some (.more ⟨.array [] :: s.stack, .valueOrClose⟩) := by
      have hne : Token.openArray ≠ .closeArray := by simp
      rw [step_of_awaitsValue hs hne]
      exact if_pos (by omega)
    rw [toTokens, itemTokens_eq, List.cons_append, List.append_assoc, List.singleton_append,
      run_cons hopen]
    by_cases hitems : items = []
    · subst hitems
      have hclose : step depth ⟨.array [] :: s.stack, .valueOrClose⟩ .closeArray =
          some (place (.arr []) s.stack) := rfl
      exact run_cons hclose rest
    · refine (run_items ih hitems (.inr ⟨rfl, _, _, rfl⟩) (by omega) rest).trans ?_
      rw [sorted, sortedItems_eq]
      rfl
  | @obj members kept ih =>
    intro s hs hdepth rest
    rw [Json.depth] at hdepth
    have hopen : s.step depth .openObject =
        some (.more ⟨.object [] "" :: s.stack, .keyOrClose⟩) := by
      have hne : Token.openObject ≠ .closeArray := by simp
      rw [step_of_awaitsValue hs hne]
      exact if_pos (by omega)
    rw [toTokens, memberTokens_eq, List.cons_append, List.append_assoc, List.singleton_append,
      run_cons hopen]
    by_cases hmembers : members = []
    · subst hmembers
      have hclose : step depth ⟨.object [] "" :: s.stack, .keyOrClose⟩ .closeObject =
          some (place (.obj []) s.stack) := rfl
      exact run_cons hclose rest
    · exact run_members ih hmembers (.inr rfl) (by omega) rest

end Take

end ReaderState

/-- A text keeps all of a value but the order of its members, where its numbers are read back from
their texts. -/
theorem read?_write {v : Json} (h : v.IsKept KeepsNumber) {depth : Nat} (hdepth : v.depth ≤ depth) :
    read? depth v.write = some v.sorted := by
  have hrun := ReaderState.takes_of_isKept h .start (.inl rfl) ((Nat.zero_add _).trans_le hdepth) []
  rw [List.append_nil, ← tokens_write h] at hrun
  rw [read?, takeValue, hrun]
  rfl

/-- A reader of texts, and which numbers and what nesting of values it gives back. -/
structure Codec where
  read? : String → Option Json
  keeps : Float → Prop
  depth : Nat
  read?_write : ∀ v : Json, v.IsKept keeps → v.depth ≤ depth → read? v.write = some v.sorted

/-- Whether a value is read from its text as it was, but for the order of members. -/
structure Codec.Holds (codec : Codec) (v : Json) : Prop where
  kept : v.IsKept codec.keeps
  depth : v.depth ≤ codec.depth

theorem Codec.Holds.read?_write {codec : Codec} {v : Json} (h : codec.Holds v) :
    codec.read? v.write = some v.sorted :=
  codec.read?_write v h.kept h.depth

/-- Numbers are read near to what they say, and not always as the nearest number. -/
def Codec.near : Codec where
  read? := Json.read? maxDepth
  keeps := KeepsNumber
  depth := maxDepth
  read?_write _ h hdepth := Json.read?_write h hdepth

-- The first of these numbers is read as 51.24817837550541.
example : ¬KeepsNumber (Decimal.toFloat ⟨51248178375505404, -15⟩) ∧
    KeepsNumber (Decimal.toFloat ⟨5124817837550541, -14⟩) := by
  decide +kernel

end Segmentation.Json
