namespace Segmentation.Text

def splitFirst (separator : List Char) : List Char → Option (List Char × List Char)
  | [] => if separator.isEmpty then some ([], []) else none
  | c :: rest =>
    if separator.isPrefixOf (c :: rest) then some ([], (c :: rest).drop separator.length)
    else (splitFirst separator rest).map fun (before, after) => (c :: before, after)

def splitLast (mark : Char) : List Char → Option (List Char × List Char)
  | [] => none
  | c :: rest =>
    match splitLast mark rest with
    | some (before, after) => some (c :: before, after)
    | none => if c = mark then some ([], rest) else none

def splitAll (mark : Char) : List Char → List (List Char)
  | [] => [[]]
  | c :: rest =>
    if c = mark then [] :: splitAll mark rest
    else (splitAll mark rest).modifyHead (c :: ·)

theorem eq_of_splitFirst {separator s before after : List Char}
    (h : splitFirst separator s = some (before, after)) : s = before ++ separator ++ after := by
  induction s generalizing before with
  | nil =>
    simp only [splitFirst] at h
    split at h
    · simp_all
    · simp at h
  | cons c rest ih =>
    simp only [splitFirst] at h
    split at h
    · next starts =>
      obtain ⟨tail, ht⟩ := List.isPrefixOf_iff_prefix.1 starts
      simp only [Option.some.injEq, Prod.mk.injEq] at h
      obtain ⟨rfl, rfl⟩ := h
      simp [← ht]
    · obtain ⟨⟨b, a⟩, hb, hp⟩ := Option.map_eq_some_iff.1 h
      simp only [Prod.mk.injEq] at hp
      obtain ⟨rfl, rfl⟩ := hp
      simp [ih hb]

theorem splitFirst_eq_none_iff {separator s : List Char} (hne : separator ≠ []) :
    splitFirst separator s = none ↔ ¬separator <:+: s := by
  induction s with
  | nil => simp [splitFirst, hne]
  | cons c rest ih =>
    rw [splitFirst, List.infix_cons_iff, ← List.isPrefixOf_iff_prefix]
    split
    · next starts => simp [starts]
    · next starts => simp [starts, ih]

theorem not_infix_of_splitFirst {separator s before after : List Char} (hne : separator ≠ [])
    (h : splitFirst separator s = some (before, after)) : ¬separator <:+: before := by
  induction s generalizing before with
  | nil => simp [splitFirst, hne] at h
  | cons c rest ih =>
    rw [splitFirst] at h
    split at h
    · cases h
      simpa using hne
    · next starts =>
      obtain ⟨⟨b, a⟩, hb, hp⟩ := Option.map_eq_some_iff.1 h
      cases hp
      rw [List.infix_cons_iff, not_or]
      refine ⟨fun hprefix => starts ?_, ih hb⟩
      rw [List.isPrefixOf_iff_prefix, eq_of_splitFirst hb, List.append_assoc, ← List.cons_append]
      exact hprefix.trans (List.prefix_append _ _)

theorem splitFirst_append {mark : Char} {before : List Char} (h : mark ∉ before)
    (after : List Char) : splitFirst [mark] (before ++ mark :: after) = some (before, after) := by
  induction before with
  | nil => simp [splitFirst]
  | cons c rest ih =>
    rw [List.mem_cons, not_or] at h
    simp [splitFirst, h.1, ih h.2]

theorem eq_of_splitLast {mark : Char} {s before after : List Char}
    (h : splitLast mark s = some (before, after)) : s = before ++ mark :: after := by
  induction s generalizing before with
  | nil => simp [splitLast] at h
  | cons c rest ih =>
    simp only [splitLast] at h
    split at h
    · next b a hb =>
      simp only [Option.some.injEq, Prod.mk.injEq] at h
      obtain ⟨rfl, rfl⟩ := h
      simp [ih hb]
    · split at h
      · next hc =>
        simp only [Option.some.injEq, Prod.mk.injEq] at h
        obtain ⟨rfl, rfl⟩ := h
        simp [hc]
      · simp at h

theorem splitLast_eq_none_iff {mark : Char} {s : List Char} :
    splitLast mark s = none ↔ mark ∉ s := by
  induction s with
  | nil => simp [splitLast]
  | cons c rest ih =>
    simp only [splitLast, List.mem_cons, not_or]
    split
    · next b a h =>
      have : ¬ mark ∉ rest := fun hn => by simp [ih.2 hn] at h
      simp_all
    · next h =>
      have hn := ih.1 h
      split
      · next hc => simp [hc]
      · next hc => simp only [true_iff]; exact ⟨fun he => hc he.symm, hn⟩

theorem not_mem_of_splitLast {mark : Char} {s before after : List Char}
    (h : splitLast mark s = some (before, after)) : mark ∉ after := by
  induction s generalizing before with
  | nil => simp [splitLast] at h
  | cons c rest ih =>
    rw [splitLast] at h
    split at h
    · next b a hb =>
      cases h
      exact ih hb
    · next hnone =>
      split at h
      · cases h
        exact splitLast_eq_none_iff.1 hnone
      · cases h

theorem splitLast_append {mark : Char} {after : List Char} (h : mark ∉ after)
    (before : List Char) : splitLast mark (before ++ mark :: after) = some (before, after) := by
  induction before with
  | nil => simp [splitLast, splitLast_eq_none_iff.2 h]
  | cons c rest ih => simp [splitLast, ih]

theorem splitAll_ne_nil (mark : Char) (s : List Char) : splitAll mark s ≠ [] := by
  induction s with
  | nil => simp [splitAll]
  | cons c rest ih =>
    simp only [splitAll]
    split <;> simp [ih]

theorem intercalate_splitAll (mark : Char) (s : List Char) :
    [mark].intercalate (splitAll mark s) = s := by
  induction s with
  | nil => simp [splitAll]
  | cons c rest ih =>
    obtain ⟨first, others, h⟩ := List.exists_cons_of_ne_nil (splitAll_ne_nil mark rest)
    rw [h] at ih
    simp only [splitAll, h]
    split
    · next hc => simp [List.intercalate_cons_cons, ih, hc]
    · cases others with
      | nil => simp_all
      | cons second others => simp_all [List.intercalate_cons_cons]

theorem not_mem_of_splitAll {mark : Char} {s part : List Char} (h : part ∈ splitAll mark s) :
    mark ∉ part := by
  induction s generalizing part with
  | nil => simp_all [splitAll]
  | cons c rest ih =>
    obtain ⟨first, others, hs⟩ := List.exists_cons_of_ne_nil (splitAll_ne_nil mark rest)
    simp only [hs, List.mem_cons] at ih
    simp only [splitAll, hs] at h
    split at h
    · next hc =>
      rcases List.mem_cons.1 h with rfl | h
      · simp
      · exact ih (by simpa using h)
    · next hc =>
      rcases List.mem_cons.1 h with rfl | h
      · simpa [Ne.symm hc] using ih (.inl rfl)
      · exact ih (.inr h)

end Segmentation.Text
