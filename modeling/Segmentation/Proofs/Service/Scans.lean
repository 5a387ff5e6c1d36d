import Segmentation.Proofs.Service.Evaluation
import Segmentation.Proofs.Service.Traces

namespace Segmentation

namespace Table

variable {κ α : Type} [DecidableEq κ]

theorem countP_place (P : α → Bool) (key : κ) (value : α) (entries : List (κ × α)) :
    ((place key value entries).map Prod.snd).countP P ≤ (entries.map Prod.snd).countP P + 1 ∧
      (entries.map Prod.snd).countP P ≤
        ((place key value entries).map Prod.snd).countP P + 1 := by
  have counted (v : α) (rest : List α) :
      rest.countP P ≤ (v :: rest).countP P ∧ (v :: rest).countP P ≤ rest.countP P + 1 := by
    rw [List.countP_cons]
    split <;> omega
  induction entries with
  | nil =>
    have hvalue := counted value []
    exact ⟨hvalue.2, Nat.zero_le _⟩
  | cons entry rest ih =>
    obtain ⟨k, v⟩ := entry
    rw [place]
    split
    · have hold := counted v (rest.map Prod.snd)
      have hnew := counted value (rest.map Prod.snd)
      simp only [List.map_cons]
      omega
    · simp only [List.map_cons, List.countP_cons]
      omega

end Table

namespace Store.Customers

theorem count_insert (s : Customers) (c : Customer) (filter : Filter) (owner : String) :
    (s.insert c).count filter owner ≤ s.count filter owner + 1 ∧
      s.count filter owner ≤ (s.insert c).count filter owner + 1 := by
  simp only [count, matching, ← List.countP_eq_length_filter]
  exact Table.countP_place _ c.id c s.byId.entries

end Store.Customers

namespace Service

open Script (Past Traced)

/-- Where the rules of a selection come from: they are given, or those of a stored segment. -/
inductive RulesSource where
  | given (rules : Json)
  | stored (id : Uuid)

/-- Whether a script that has been through some calls has these rules. -/
def RulesSource.Provides (owner : String) (past : Past) (rules : Json) : RulesSource → Prop
  | given asked => rules = asked
  | stored id => ∃ w earlier segment, past = (w, .get owner id) :: earlier ∧
    w.segments.get? owner id = some segment ∧ rules = segment.rules

/-- What a selection has been through: it has read the clock, counted and then found the customers,
all for one filter. -/
inductive Selected (owner : String) (limit : Nat) (source : RulesSource) :
    Past → Except Failure Selection → Prop
  | failed {past : Past} {f : Failure} : Selected owner limit source past (.error f)
  | done {w₀ w₁ w₂ w₃ w₄ : World} {m m' : Metrics.Measurement} {rules : Json} {filter : Filter}
      {rest : Past} (hrules : source.Provides owner rest rules)
      (hfilter : filter = compileRules w₀.clock rules) :
      Selected owner limit source
        ((w₄, .record m') :: (w₃, .find filter owner limit) :: (w₂, .count filter owner) ::
          (w₁, .record m) :: (w₀, .now) :: rest)
        (.ok ⟨w₂.customers.count filter owner, w₃.customers.find filter owner limit, w₀.clock⟩)

theorem traced_select (op : Operation) (limit : Nat) {owner : String} {rules : Json}
    {source : RulesSource} {past : Past} (h : source.Provides owner past rules) :
    Traced (fun _ _ => True) (Selected owner limit source) past
      (select op limit owner rules).run := by
  by_cases hrules : Rule.problems rules = []
  · rw [select_of_valid op limit owner hrules]
    exact .call trivial fun _ => .call trivial fun _ => .call trivial fun _ =>
      .call trivial fun _ => .call trivial fun _ => .done (.done h rfl)
  · obtain ⟨m, f, hselect⟩ := select_of_not_valid op limit owner hrules
    rw [hselect]
    exact .call trivial fun _ => .done .failed

theorem traced_audience (limits : Limits) (owner : String) (id : Uuid) :
    Traced (fun _ _ => True) (Selected owner limits.audience (.stored id)) []
      (audience limits owner id).run := by
  rw [audience, get_bind]
  refine .call trivial fun w => ?_
  rw [World.perform]
  cases hsegment : w.segments.get? owner id with
  | none => exact .done .failed
  | some segment => exact traced_select _ _ ⟨w, [], segment, rfl, hsegment, rfl⟩

/-- Whether a move brings a customer, a new one or one in place of an older. -/
def Move.isArrival {ι : Type} : Move ι → Bool
  | .drift (.customer _) => true
  | _ => false

namespace Pool

variable {ι α : Type}

/-- How many customers come in from the `m`-th move on and before the `n`-th. -/
def arrivals (moves : List (Move ι)) (m n : Nat) : Nat :=
  ((moves.take n).drop m).countP Move.isArrival

theorem arrivals_succ (moves : List (Move ι)) {m n : Nat} (h : m ≤ n) :
    arrivals moves m (n + 1) =
      arrivals moves m n + moves[n]?.toList.countP Move.isArrival := by
  rw [arrivals, List.take_add_one]
  cases hmove : moves[n]? with
  | none => rw [Option.toList_none, List.append_nil, List.countP_nil, arrivals, Nat.add_zero]
  | some move =>
    obtain ⟨hlt, -⟩ := List.getElem?_eq_some_iff.1 hmove
    rw [List.drop_append_of_le_length, List.countP_append]
    · rfl
    · rw [List.length_take_of_le (Nat.le_of_lt hlt)]
      exact h

variable [DecidableEq ι]

theorem customers_before_succ (p : Pool ι α) (moves : List (Move ι)) (n : Nat) :
    (p.before moves (n + 1)).world.customers = (p.before moves n).world.customers ∨
      ∃ c, moves[n]? = some (.drift (.customer c)) ∧
        (p.before moves (n + 1)).world.customers = (p.before moves n).world.customers.insert c := by
  rcases world_before_succ p moves n with hsame | ⟨d, hmove, hdrift⟩ | ⟨j, c, -, hcall⟩
  · rw [hsame]
    exact .inl rfl
  · rw [hdrift]
    cases d with
    | clock t => exact .inl rfl
    | customer c => exact .inr ⟨c, hmove, rfl⟩
  · rw [hcall]
    exact .inl (World.sameScene_perform _ c).customers

theorem count_before (p : Pool ι α) (moves : List (Move ι)) (filter : Filter) (owner : String)
    {m n : Nat} (h : m ≤ n) :
    (p.before moves n).world.customers.count filter owner ≤
        (p.before moves m).world.customers.count filter owner + arrivals moves m n ∧
      (p.before moves m).world.customers.count filter owner ≤
        (p.before moves n).world.customers.count filter owner + arrivals moves m n := by
  -- By induction on the moves: each of them changes the count by one at most, and only if it
  -- brings a customer.
  induction h with
  | refl => exact ⟨Nat.le_add_right _ _, Nat.le_add_right _ _⟩
  | @step n h ih =>
    rw [arrivals_succ moves h]
    rcases customers_before_succ p moves n with hsame | ⟨c, hmove, hinsert⟩
    · rw [hsame]
      omega
    · have hone := (p.before moves n).world.customers.count_insert c filter owner
      rw [hinsert, hmove, Option.toList_some, List.countP_singleton, Move.isArrival, if_pos rfl]
      omega

inductive Asked (limits : Limits) (owner : String) :
    (limit : Nat) → RulesSource → Script (Except Failure Selection) → Prop
  | preview (rules : Json) :
      Asked limits owner limits.previewSample (.given rules)
        (Service.preview limits owner rules).run
  | audience (id : Uuid) :
      Asked limits owner limits.audience (.stored id) (Service.audience limits owner id).run

theorem Asked.traced {limits : Limits} {owner : String} {limit : Nat} {source : RulesSource}
    {s : Script (Except Failure Selection)} (h : Asked limits owner limit source s) :
    Traced (fun _ _ => True) (Selected owner limit source) [] s := by
  cases h with
  | preview rules => exact traced_select _ _ rfl
  | audience id => exact traced_audience limits owner id

/-- Whether a script has these rules before the `n`-th move: those that were given, or those of the
segment that it has got from the store. -/
def Provided (p : Pool ι α) (moves : List (Move ι)) (i : ι) (owner : String) (n : Nat)
    (rules : Json) : RulesSource → Prop
  | .given asked => rules = asked
  | .stored id => ∃ got < n, p.call? moves i got = some (.get owner id) ∧ ∃ segment,
    (p.before moves got).world.segments.get? owner id = some segment ∧ rules = segment.rules

theorem provided_of_provides {p : Pool ι α} {moves : List (Move ι)} {i : ι} {owner : String}
    {n : Nat} {rules : Json} {source : RulesSource}
    (h : source.Provides owner (p.past moves i n) rules) :
    Provided p moves i owner n rules source := by
  cases source with
  | given asked => exact h
  | stored id =>
    obtain ⟨w, earlier, segment, hpast, hsegment, hrules⟩ := h
    obtain ⟨got, hgot, rfl, hcall, -, -⟩ := past_eq_cons hpast
    exact ⟨got, hgot, hcall, segment, hsegment, hrules⟩

theorem Provided.mono {p : Pool ι α} {moves : List (Move ι)} {i : ι} {owner : String}
    {m n : Nat} {rules : Json} {source : RulesSource} (h : Provided p moves i owner m rules source)
    (hmn : m ≤ n) : Provided p moves i owner n rules source := by
  cases source with
  | given asked => exact h
  | stored id =>
    obtain ⟨got, hgot, hcall⟩ := h
    exact ⟨got, Nat.lt_of_lt_of_le hgot hmn, hcall⟩

/-- However a preview or an audience is interleaved with other work, and with customers that come in
or are replaced: it counts the customers that its filter matches at one moment and finds the first
of them at a later one. So the list has as many customers as there are at that later moment, up to
the limit; this is the count, too, but for at most as many customers as have come in between. -/
theorem selection_of_scans {p : Pool ι (Except Failure Selection)} {moves : List (Move ι)} {i : ι}
    {limits : Limits} {owner : String} {limit : Nat} {source : RulesSource} {selection : Selection}
    (asked : Asked limits owner limit source (p.rest i))
    (result : (p.play moves).result? i = some (.ok selection)) :
    ∃ counted found filter, counted < found ∧ found < moves.length ∧
      (∃ rules, Provided p moves i owner counted rules source ∧
        filter = compileRules selection.evaluatedAt rules) ∧
      p.call? moves i counted = some (.count filter owner) ∧
      p.call? moves i found = some (.find filter owner limit) ∧
      selection.count = (p.before moves counted).world.customers.count filter owner ∧
      selection.customers = (p.before moves found).world.customers.find filter owner limit ∧
      selection.customers.length =
        min limit ((p.before moves found).world.customers.count filter owner) ∧
      selection.customers.length ≤
        min limit (selection.count + arrivals moves counted found) ∧
      min limit selection.count ≤
        selection.customers.length + arrivals moves counted found ∧
      (arrivals moves counted found = 0 →
        selection.customers.length = min limit selection.count) := by
  have hselected := of_result? asked.traced result
  generalize hpast : p.past moves i moves.length = past at hselected
  cases hselected with
  | @done w₀ w₁ w₂ w₃ w₄ m m' rules filter rest hrules hfilter =>
    obtain ⟨recorded, hrecorded, -, -, hpast, -⟩ := past_eq_cons hpast
    obtain ⟨found, hfound, rfl, hfind, hpast, -⟩ := past_eq_cons hpast
    obtain ⟨counted, hcounted, rfl, hcount, hpast, -⟩ := past_eq_cons hpast
    obtain ⟨noted, hnoted, -, -, hpast, -⟩ := past_eq_cons hpast
    obtain ⟨started, hstarted, -, -, rfl, -⟩ := past_eq_cons hpast
    have hprovided : Provided p moves i owner counted rules source :=
      (provided_of_provides hrules).mono (Nat.le_of_lt (Nat.lt_trans hstarted hnoted))
    have hbetween := count_before p moves filter owner (Nat.le_of_lt hcounted)
    have hlength := (p.before moves found).world.customers.length_find filter owner limit
    refine ⟨counted, found, filter, hcounted, Nat.lt_trans hfound hrecorded,
      ⟨rules, hprovided, hfilter⟩, hcount, hfind, rfl, rfl, hlength, ?_, ?_, ?_⟩
    all_goals
      simp only [hlength]
      omega

def previewed : Pool Unit (Except Failure Selection) :=
  ⟨.blank, fun _ =>
    (preview ⟨20, 100⟩ "shop" (.obj [("rules", .arr []), ("combinator", .str "or")])).run⟩

def arrival : List (Move Unit) :=
  [.advance (), .advance (), .advance (), .drift (.customer World.visitor), .advance (),
    .advance ()]

theorem selection_of_scans_arrival :
    ∃ selection : Selection, (previewed.play arrival).result? () = some (.ok selection) ∧
      selection.count = 0 ∧
      ∃ counted found filter, counted < found ∧
        previewed.call? arrival () counted = some (.count filter "shop") ∧
        previewed.call? arrival () found = some (.find filter "shop" 20) ∧
        selection.customers.length =
          min 20 ((previewed.before arrival found).world.customers.count filter "shop") := by
  have hresult : ∃ selection : Selection,
      (previewed.play arrival).result? () = some (.ok selection) ∧ selection.count = 0 := by
    refine ⟨_, rfl, ?_⟩
    decide +kernel
  obtain ⟨selection, hselection, hnone⟩ := hresult
  obtain ⟨counted, found, filter, hlt, -, -, hcount, hfind, -, -, hlength, -⟩ :=
    selection_of_scans (.preview _) hselection
  exact ⟨selection, hselection, hnone, counted, found, filter, hlt, hcount, hfind, hlength⟩

/-- That customer is found, but not counted. -/
theorem length_ne_count :
    ∃ selection : Selection, (previewed.play arrival).result? () = some (.ok selection) ∧
      selection.count = 0 ∧ selection.customers.length = 1 ∧
      selection.customers.length ≠ min 20 selection.count := by
  refine ⟨_, rfl, ?_⟩
  decide +kernel

end Pool

end Service

end Segmentation
