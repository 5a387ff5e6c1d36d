import Segmentation.Proofs.Service.Interleaving

namespace Segmentation.Service

namespace Script

variable {α β : Type}

/-- The calls that were made, the latest first, each with the world that it found. -/
abbrev Past :=
  List (World × Call)

/-- A script in the course of its run: with what it has been through until then, each further call
is as `P` says and the result as `Q` says. -/
inductive Traced (P : Past → Call → Prop) (Q : Past → α → Prop) : Past → Script α → Prop
  | done {past : Past} {a : α} (result : Q past a) : Traced P Q past (.done a)
  | call {past : Past} {c : Call} {next : c.Answer → Script α} (first : P past c)
      (after : ∀ w, Traced P Q ((w, c) :: past) (next (w.perform c).1)) :
      Traced P Q past (.call c next)

namespace Traced

variable {P : Past → Call → Prop} {Q : Past → α → Prop} {past : Past} {s : Script α}

theorem imp {R : Past → α → Prop} (hs : Traced P Q past s) (h : ∀ past a, Q past a → R past a) :
    Traced P R past s := by
  induction hs with
  | done result => exact .done (h _ _ result)
  | call first _ ih => exact .call first ih

theorem bind {R : Past → β → Prop} {f : α → Script β} (hs : Traced P Q past s)
    (hf : ∀ past a, Q past a → Traced P R past (f a)) : Traced P R past (s >>= f) := by
  change Traced P R past (s.bind f)
  induction hs with
  | done result => exact hf _ _ result
  | call first _ ih => exact .call first ih

end Traced

end Script

namespace Pool

open Script (Past Traced)

variable {ι α : Type} [DecidableEq ι]

/-- What the first `n` moves make of a pool, all moves if there are fewer. -/
def before (p : Pool ι α) (moves : List (Move ι)) (n : Nat) : Pool ι α :=
  p.play (moves.take n)

/-- The call that a script makes with the `n`-th move. -/
def call? (p : Pool ι α) (moves : List (Move ι)) (i : ι) (n : Nat) : Option Call :=
  match moves[n]?, (p.before moves n).rest i with
  | some (.advance j), .call c _ => if j = i then some c else none
  | _, _ => none

/-- What a script has been through in the first `n` moves. -/
def past (p : Pool ι α) (moves : List (Move ι)) (i : ι) : Nat → Past
  | 0 => []
  | n + 1 =>
    match p.call? moves i n with
    | some c => ((p.before moves n).world, c) :: p.past moves i n
    | none => p.past moves i n

variable {p : Pool ι α} {moves : List (Move ι)} {i : ι} {n : Nat}

theorem before_length (p : Pool ι α) (moves : List (Move ι)) :
    p.before moves moves.length = p.play moves := by
  rw [before, List.take_length]

theorem before_succ {m : Move ι} (h : moves[n]? = some m) :
    p.before moves (n + 1) = (p.before moves n).step m := by
  rw [before, List.take_add_one, h, Option.toList_some, play_concat]
  rfl

theorem before_succ_of_none (h : moves[n]? = none) :
    p.before moves (n + 1) = p.before moves n := by
  rw [before, List.take_add_one, h, Option.toList_none, List.append_nil]
  rfl

theorem call?_eq_some_iff {c : Call} :
    p.call? moves i n = some c ↔
      moves[n]? = some (.advance i) ∧ ∃ next, (p.before moves n).rest i = .call c next := by
  rw [call?]
  constructor
  · intro h
    split at h
    · next j c' next hmove hrest =>
      split at h
      · next hj =>
        cases h
        rw [← hj] at hrest ⊢
        exact ⟨hmove, next, hrest⟩
      · cases h
    · cases h
  · rintro ⟨hmove, next, hrest⟩
    simp only [hmove, hrest, if_true]

theorem world_before_succ (p : Pool ι α) (moves : List (Move ι)) (n : Nat) :
    (p.before moves (n + 1)).world = (p.before moves n).world ∨
      (∃ d, moves[n]? = some (.drift d) ∧
        (p.before moves (n + 1)).world = (p.before moves n).world.drift d) ∨
      ∃ i c, p.call? moves i n = some c ∧
        (p.before moves (n + 1)).world = ((p.before moves n).world.perform c).2 := by
  cases hmove : moves[n]? with
  | none =>
    rw [before_succ_of_none hmove]
    exact .inl rfl
  | some m =>
    rw [before_succ hmove]
    cases m with
    | drift d => exact .inr (.inl ⟨d, rfl, rfl⟩)
    | advance i =>
      cases hi : (p.before moves n).rest i with
      | done a =>
        rw [step_of_done hi]
        exact .inl rfl
      | call c next =>
        rw [step_of_call hi]
        exact .inr (.inr ⟨i, c, call?_eq_some_iff.2 ⟨hmove, next, hi⟩, rfl⟩)

theorem world_before_succ_of_call {c : Call} (h : p.call? moves i n = some c) :
    (p.before moves (n + 1)).world = ((p.before moves n).world.perform c).2 := by
  obtain ⟨hmove, next, hrest⟩ := call?_eq_some_iff.1 h
  rw [before_succ hmove, step_of_call hrest]

theorem call?_unique {j : ι} {c d : Call} (hi : p.call? moves i n = some c)
    (hj : p.call? moves j n = some d) : i = j ∧ c = d := by
  obtain ⟨hi', -⟩ := call?_eq_some_iff.1 hi
  obtain ⟨hj', -⟩ := call?_eq_some_iff.1 hj
  cases hi'.symm.trans hj'
  exact ⟨rfl, Option.some.inj (hi.symm.trans hj)⟩

theorem rest_before_succ (h : p.call? moves i n = none) :
    (p.before moves (n + 1)).rest i = (p.before moves n).rest i := by
  cases hmove : moves[n]? with
  | none => rw [before_succ_of_none hmove]
  | some m =>
    rw [before_succ hmove]
    cases m with
    | drift d => rfl
    | advance j =>
      cases hj : (p.before moves n).rest j with
      | done a => rw [step_of_done hj]
      | call c next =>
        have hne : i ≠ j := by
          rintro rfl
          rw [call?_eq_some_iff.2 ⟨hmove, next, hj⟩] at h
          cases h
        rw [step_of_call hj]
        exact Function.update_of_ne hne _ _

theorem rest_before_succ_of_call {c : Call} {next : c.Answer → Script α}
    (hmove : moves[n]? = some (.advance i)) (hrest : (p.before moves n).rest i = .call c next) :
    (p.before moves (n + 1)).rest i = next ((p.before moves n).world.perform c).1 := by
  rw [before_succ hmove, step_of_call hrest]
  exact Function.update_self _ _ _

theorem past_eq_cons {w : World} {c : Call} {rest : Past}
    (h : p.past moves i n = (w, c) :: rest) :
    ∃ t < n, (p.before moves t).world = w ∧ p.call? moves i t = some c ∧
      p.past moves i t = rest ∧ ∀ u, t < u → u < n → p.call? moves i u = none := by
  induction n with
  | zero => cases h
  | succ n ih =>
    rw [past] at h
    split at h
    · next c' hcall =>
      cases h
      refine ⟨n, Nat.lt_succ_self n, rfl, hcall, rfl, fun u hu hu' => ?_⟩
      omega
    · next hnone =>
      obtain ⟨t, ht, hw, hcall, hrest, hbetween⟩ := ih h
      refine ⟨t, Nat.lt_succ_of_lt ht, hw, hcall, hrest, fun u hu hu' => ?_⟩
      rcases Nat.lt_succ_iff_lt_or_eq.1 hu' with hlt | rfl
      · exact hbetween u hu hlt
      · exact hnone

theorem mem_past {w : World} {c : Call} (h : (w, c) ∈ p.past moves i n) :
    ∃ t < n, (p.before moves t).world = w ∧ p.call? moves i t = some c := by
  induction n with
  | zero => cases h
  | succ n ih =>
    rw [past] at h
    split at h
    · next c' hcall =>
      rcases List.mem_cons.1 h with heq | hmem
      · cases heq
        exact ⟨n, Nat.lt_succ_self n, rfl, hcall⟩
      · obtain ⟨t, ht, hrest⟩ := ih hmem
        exact ⟨t, Nat.lt_succ_of_lt ht, hrest⟩
    · obtain ⟨t, ht, hrest⟩ := ih h
      exact ⟨t, Nat.lt_succ_of_lt ht, hrest⟩

section Traced

variable {P : Past → Call → Prop} {Q : Past → α → Prop}

theorem traced_before (h : Traced P Q [] (p.rest i)) (moves : List (Move ι)) (n : Nat) :
    Traced P Q (p.past moves i n) ((p.before moves n).rest i) := by
  -- By induction on the moves: the others only change the world that the next call finds.
  induction n with
  | zero => exact h
  | succ n ih =>
    rw [past]
    split
    · next c hcall =>
      obtain ⟨hmove, next, hrest⟩ := call?_eq_some_iff.1 hcall
      rw [hrest] at ih
      rw [rest_before_succ_of_call hmove hrest]
      cases ih with
      | call first after => exact after _
    · next hnone =>
      rw [rest_before_succ hnone]
      exact ih

theorem of_call? (h : Traced P Q [] (p.rest i)) {c : Call} (hcall : p.call? moves i n = some c) :
    P (p.past moves i n) c := by
  obtain ⟨-, next, hrest⟩ := call?_eq_some_iff.1 hcall
  have htraced := traced_before h moves n
  rw [hrest] at htraced
  cases htraced with
  | call first after => exact first

theorem of_result? (h : Traced P Q [] (p.rest i)) {a : α}
    (hresult : (p.play moves).result? i = some a) : Q (p.past moves i moves.length) a := by
  have htraced := traced_before h moves moves.length
  rw [before_length, result?_eq_some_iff.1 hresult] at htraced
  cases htraced with
  | done result => exact result

end Traced

end Pool

end Segmentation.Service
