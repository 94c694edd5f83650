import Mathlib.Data.List.Basic

/-!
# Texts that give away what they were written from

A way of writing items down *reveals* something of them if two written items, each with any text
behind it, can only be the same text if they agree in it and in the text behind (`Reveals`). Such
items may be written one after another: the text reveals the whole list, if what stands behind it
could not be taken for another item (`Reveals.flatMap`). An item ends anywhere because a run of
characters of one kind ends where another character stands (`append_inj_of_stop`), and a text
without a mark ends at the mark (`append_cons_inj`).
-/

namespace Scaffold.Text

/-- A run of characters that have a property ends where one without it stands. -/
theorem span_append_of_stop {p : Char → Bool} {run rest : List Char} (hrun : ∀ c ∈ run, p c = true)
    (hrest : ∀ c ∈ rest.head?, p c = false) :
    (run ++ rest).takeWhile p = run ∧ (run ++ rest).dropWhile p = rest := by
  have hstop : rest.takeWhile p = [] ∧ rest.dropWhile p = rest := by
    cases rest with
    | nil => exact ⟨rfl, rfl⟩
    | cons c cs =>
      have hc : p c = false := hrest c rfl
      rw [List.takeWhile_cons, List.dropWhile_cons, hc]
      exact ⟨rfl, rfl⟩
  rw [List.takeWhile_append_of_pos hrun, List.dropWhile_append_of_pos hrun, hstop.1, hstop.2,
    List.append_nil]
  exact ⟨rfl, rfl⟩

/-- Runs of characters that stop where the predicate fails can be told from what follows them. -/
theorem append_inj_of_stop {p : Char → Bool} {run other rest after : List Char}
    (hrun : ∀ c ∈ run, p c = true) (hother : ∀ c ∈ other, p c = true)
    (hrest : ∀ c ∈ rest.head?, p c = false) (hafter : ∀ c ∈ after.head?, p c = false)
    (h : run ++ rest = other ++ after) : run = other ∧ rest = after := by
  obtain ⟨hrunTake, hrunDrop⟩ := span_append_of_stop hrun hrest
  obtain ⟨hotherTake, hotherDrop⟩ := span_append_of_stop hother hafter
  rw [h] at hrunTake hrunDrop
  exact ⟨hrunTake.symm.trans hotherTake, hrunDrop.symm.trans hotherDrop⟩

/-- A text is cut at the first of its marks in one way only. -/
theorem append_cons_inj {mark : Char} {run other rest after : List Char} (hrun : mark ∉ run)
    (hother : mark ∉ other) (h : run ++ mark :: rest = other ++ mark :: after) :
    run = other ∧ rest = after := by
  have hbefore {cs : List Char} (hcs : mark ∉ cs) : ∀ c ∈ cs, (c != mark) = true := by
    intro c hc
    rw [bne_iff_ne]
    rintro rfl
    exact hcs hc
  obtain ⟨hruns, hmarks⟩ :=
    append_inj_of_stop (hbefore hrun) (hbefore hother) (by simp) (by simp) h
  exact ⟨hruns, (List.cons.inj hmarks).2⟩

/-- A written item gives away what is seen of it, and where it ends. -/
def Reveals {α β : Type} (ok : α → Prop) (write : α → List Char) (view : α → β) : Prop :=
  ∀ first second, ok first → ok second → ∀ rest after,
    write first ++ rest = write second ++ after → view first = view second ∧ rest = after

/-- **Items written one after another reveal the list of them**, up to a text that starts like none
of them. Induction along both lists. -/
theorem Reveals.flatMap {α β : Type} {ok : α → Prop} {write : α → List Char} {view : α → β}
    (h : Reveals ok write view) {items others : List α} (hitems : ∀ item ∈ items, ok item)
    (hothers : ∀ item ∈ others, ok item) {rest after : List Char}
    (hrest : ∀ item, ok item → ∀ more, write item ++ more ≠ rest)
    (hafter : ∀ item, ok item → ∀ more, write item ++ more ≠ after)
    (heq : items.flatMap write ++ rest = others.flatMap write ++ after) :
    items.map view = others.map view ∧ rest = after := by
  induction items generalizing others with
  | nil =>
    cases others with
    | nil => exact ⟨rfl, heq⟩
    | cons item others =>
      rw [List.flatMap_cons, List.append_assoc] at heq
      -- the shorter list would have to go on with an item, which its rest rules out
      exact absurd heq.symm (hrest item (hothers item List.mem_cons_self) _)
  | cons item items ih =>
    have hitem : ok item := hitems item List.mem_cons_self
    rw [List.flatMap_cons, List.append_assoc] at heq
    cases others with
    | nil => exact absurd heq (hafter item hitem _)
    | cons other others =>
      rw [List.flatMap_cons, List.append_assoc] at heq
      -- the first items show the same, and what stands behind them is equal again
      obtain ⟨hview, hbehind⟩ := h item other hitem (hothers other List.mem_cons_self) _ _ heq
      obtain ⟨hviews, hend⟩ := ih (fun item hmem => hitems item (List.mem_cons_of_mem _ hmem))
        (fun item hmem => hothers item (List.mem_cons_of_mem _ hmem)) hbehind
      exact ⟨by rw [List.map_cons, List.map_cons, hview, hviews], hend⟩

/-- What is written of the items of a list depends on what is seen of them, if it does so for
each. -/
theorem flatMap_eq_of_map_eq {α β : Type} {write : α → List Char} {view : α → β}
    (h : ∀ first second, view first = view second → write first = write second)
    {items others : List α} (heq : items.map view = others.map view) :
    items.flatMap write = others.flatMap write := by
  induction items generalizing others with
  | nil => rw [List.map_eq_nil_iff.mp heq.symm]
  | cons item items ih =>
    cases others with
    | nil => cases heq
    | cons other others =>
      obtain ⟨hview, hviews⟩ := List.cons.inj heq
      rw [List.flatMap_cons, List.flatMap_cons, h item other hview, ih hviews]

end Scaffold.Text
