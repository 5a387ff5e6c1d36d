import Segmentation.Proofs.Service.Scope
import Segmentation.Service

namespace Segmentation.Service

namespace Action

variable {α β : Type} {user : Option String} {x : Action α} {f : α → Action β}

theorem reads_pure (a : α) : (pure a : Action α).run.Reads user :=
  .done (Except.ok a)

theorem reads_fail (e : Failure) : (fail e : Action α).run.Reads user :=
  .done (Except.error e)

theorem reads_fail_bind (e : Failure) (f : α → Action β) : (fail e >>= f).run.Reads user :=
  .done (Except.error e)

theorem reads_bindCont (hf : ∀ a, (f a).run.Reads user) (result : Except Failure α) :
    (ExceptT.bindCont f result).Reads user := by
  cases result with
  | ok a => exact hf a
  | error e => exact .done _

theorem reads_bind (hx : x.run.Reads user) (hf : ∀ a, (f a).run.Reads user) :
    (x >>= f).run.Reads user :=
  Script.Reads.bind hx (reads_bindCont hf)

theorem stays_bind {w : World} (hx : x.run.Reads user)
    (hf : ∀ a (w' : World), w'.segments = w.segments → w'.ids = w.ids →
      (f a).run.Stays user w') : (x >>= f).run.Stays user w := by
  apply Script.Reads.bind_stays hx
  intro result w' hsegments hids
  cases result with
  | ok a => exact hf a w' hsegments hids
  | error e => exact .done _ _

theorem stays_bind_reads {w : World} (hx : x.run.Stays user w)
    (hf : ∀ a, (f a).run.Reads user) : (x >>= f).run.Stays user w :=
  Script.Stays.bind hx ((reads_bindCont hf _).stays _)

theorem reads_now : now.run.Reads user :=
  .call trivial fun _ => .done _

theorem reads_record (m : Metrics.Measurement) : (record m).run.Reads user :=
  .call trivial fun _ => .done _

theorem reads_count (filter : Filter) (owner : String) :
    (count filter owner).run.Reads (some owner) :=
  Script.reads_ask rfl

theorem reads_find (filter : Filter) (owner : String) (limit : Nat) :
    (find filter owner limit).run.Reads (some owner) :=
  Script.reads_ask rfl

theorem reads_findByName (owner name : String) :
    (findByName owner name).run.Reads (some owner) :=
  Script.reads_ask rfl

theorem reads_get (owner : String) (id : Uuid) : (get owner id).run.Reads (some owner) :=
  Script.reads_ask rfl

theorem reads_list (owner : String) : (list owner).run.Reads (some owner) :=
  Script.reads_ask rfl

end Action

section Reading

variable {user : Option String} (op : Operation) (rules : Json)

theorem reads_validate : (validate op rules).run.Reads user := by
  by_cases h : (Rule.problems rules).isEmpty
  · rw [validate, if_pos h]
    exact Action.reads_pure ()
  · rw [validate, if_neg h]
    exact Action.reads_bind (Action.reads_record _) fun _ => Action.reads_fail _

theorem reads_compile (now : Instant) : (compile op rules now).run.Reads user :=
  Action.reads_bind (Action.reads_record _) fun _ => Action.reads_pure _

theorem reads_select (limit : Nat) (owner : String) :
    (select op limit owner rules).run.Reads (some owner) := by
  apply Action.reads_bind (reads_validate op rules)
  intro _
  apply Action.reads_bind Action.reads_now
  intro now
  apply Action.reads_bind (reads_compile op rules now)
  intro filter
  apply Action.reads_bind (Action.reads_count filter owner)
  intro count
  apply Action.reads_bind (Action.reads_find filter owner limit)
  intro customers
  exact Action.reads_bind (Action.reads_record _) fun _ => Action.reads_pure _

theorem reads_get (owner : String) (id : Uuid) : (get owner id).run.Reads (some owner) := by
  apply Action.reads_bind (Action.reads_get owner id)
  intro found
  cases found with
  | none => exact Action.reads_fail _
  | some segment => exact Action.reads_pure segment

theorem reads_audience (limits : Limits) (owner : String) (id : Uuid) :
    (audience limits owner id).run.Reads (some owner) :=
  Action.reads_bind (reads_get owner id) fun segment =>
    reads_select .audience segment.rules limits.audience owner

end Reading

section Writing

variable {w : World} (owner : String)

theorem stays_save (draft : Draft) (fresh : ∀ n, w.segments.byId.get? (w.ids n) = none) :
    (save owner draft).run.Stays (some owner) w := by
  rw [save]
  by_cases hname : (Text.trim draft.name).isEmpty
  · simp only [if_pos hname]
    exact (Action.reads_fail_bind _ _).stays w
  simp only [if_neg hname]
  apply Action.stays_bind (reads_validate .save draft.rules)
  intro _ w₁ hs₁ hi₁
  refine Action.stays_bind (Action.reads_findByName owner (Text.trim draft.name))
    fun found w₂ hs₂ hi₂ => ?_
  by_cases hfound : found.isSome
  · simp only [if_pos hfound]
    exact (Action.reads_fail_bind _ _).stays w₂
  simp only [if_neg hfound]
  apply Action.stays_bind Action.reads_now
  intro now w₃ hs₃ hi₃
  apply Action.stays_bind (reads_compile .save draft.rules now)
  intro filter w₄ hs₄ hi₄
  apply Action.stays_bind (Action.reads_count filter owner)
  intro count w₅ hs₅ hi₅
  -- The segment that is stored is named by the identifier drawn just before.
  apply Script.Stays.bind (s := Action.freshId.run) (.call trivial (.done _ _))
  refine Action.stays_bind_reads (Script.stays_ask ⟨rfl, ?_, w₅.drawn, rfl⟩)
    fun _ => Action.reads_pure _
  change w₅.segments.byId.get? (w₅.ids w₅.drawn) = none
  rw [hs₅, hs₄, hs₃, hs₂, hs₁, hi₅, hi₄, hi₃, hi₂, hi₁]
  exact fresh _

theorem stays_refreshSegment {segment : Segment} (howner : segment.owner = owner)
    (held : (w.segments.get? owner segment.id).isSome) :
    (refreshSegment segment).run.Stays (some owner) w := by
  -- The segments of a refresh are ones that the account holds; what is stored of them may have
  -- changed since they were listed.
  subst howner
  apply Action.stays_bind (reads_validate .refresh segment.rules)
  intro _ w₁ hs₁ _
  apply Action.stays_bind Action.reads_now
  intro now w₂ hs₂ _
  apply Action.stays_bind (reads_compile .refresh segment.rules now)
  intro filter w₃ hs₃ _
  apply Action.stays_bind (Action.reads_count filter segment.owner)
  intro count w₄ hs₄ _
  obtain ⟨stored, hget⟩ := Option.isSome_iff_exists.1 held
  refine Action.stays_bind_reads (Script.stays_ask ⟨segment.owner, stored, rfl, ?_⟩)
    fun _ => Action.reads_pure _
  rw [hs₄, hs₃, hs₂, hs₁]
  exact hget

theorem run_get (id : Uuid) :
    (get owner id).run.run w =
      (match w.segments.get? owner id with
        | some segment => .ok segment
        | none => .error (.segmentNotFound id.write), w) := by
  rw [get, ExceptT.run_bind, Script.run_bind]
  change Script.run (match w.segments.get? owner id with
    | some segment => _
    | none => _) w = _
  cases w.segments.get? owner id <;> rfl

theorem stays_refresh (id : Uuid) : (refresh owner id).run.Stays (some owner) w := by
  apply Script.Stays.bind (s := (get owner id).run) ((reads_get owner id).stays w)
  rw [run_get]
  cases hget : w.segments.get? owner id with
  | none => exact .done _ _
  | some segment =>
    obtain ⟨hbyId, howner⟩ := Store.Segments.get?_eq_some_iff.1 hget
    apply stays_refreshSegment owner howner
    rw [w.segments.id_of_get? hbyId, hget]
    rfl

theorem stays_refreshEach {segments : List Segment}
    (howner : ∀ segment ∈ segments, segment.owner = owner)
    (held : ∀ segment ∈ segments, (w.segments.get? owner segment.id).isSome) :
    (refreshEach segments).Stays (some owner) w := by
  induction segments generalizing w with
  | nil => exact .done _ _
  | cons segment rest ih =>
    have hstays := stays_refreshSegment owner (howner segment List.mem_cons_self)
      (held segment List.mem_cons_self)
    apply Script.Stays.bind hstays
    refine Script.Stays.bind (ih ?_ ?_) ?_
    · exact fun segment hmem => howner segment (List.mem_cons_of_mem _ hmem)
    · exact fun segment hmem =>
        Script.held_run hstays (held segment (List.mem_cons_of_mem _ hmem))
    · split <;> exact .done _ _

theorem stays_refreshAll : (refreshAll owner).run.Stays (some owner) w := by
  apply Script.Stays.bind (s := (Action.list owner).run) (Script.stays_ask rfl)
  have hmem : ∀ segment ∈ (w.segments.list owner).filter (·.isActive),
      w.segments.get? owner segment.id = some segment := by
    intro segment h
    exact Store.Segments.mem_list.1 (List.mem_filter.1 h).1
  refine Script.Stays.bind (s := refreshEach _) (stays_refreshEach owner ?_ ?_) (.done _ _)
  · exact fun segment h => (Store.Segments.get?_eq_some_iff.1 (hmem segment h)).2
  · intro segment h
    change (w.segments.get? owner segment.id).isSome
    rw [hmem segment h]
    rfl

end Writing

end Segmentation.Service
