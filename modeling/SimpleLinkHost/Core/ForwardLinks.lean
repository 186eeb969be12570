import SimpleLinkHost.Core.IndexList

/-!
# Links that lead forward

A list of members grows at its end, and each member may have a link to another one.  Where
every link leads from a member to one that came later, there is no cycle among them, whatever
part of the members the links connect: every walk along them ends, and meets the members in
the order in which they came.
-/

namespace SimpleLinkHost.ForwardLinks

open IndexList
open scoped List

section Order

variable {α : Type*} {members visited : List α} {item later last : α}

/-- `later` comes behind `item`. -/
def Precedes (members : List α) (item later : α) : Prop :=
  ∀ before after, members = before ++ item :: after → later ∈ after

theorem Precedes.mem (hprecedes : Precedes members item later) (hitem : item ∈ members) :
    later ∈ members := by
  obtain ⟨before, after, rfl⟩ := List.append_of_mem hitem
  exact List.mem_append_right _ (List.mem_cons_of_mem _ (hprecedes before after rfl))

/-- A list that grows keeps its order. -/
theorem Precedes.concat (hprecedes : Precedes members item later) (hitem : item ∈ members)
    (hlast : last ∉ members) : Precedes (members ++ [last]) item later := by
  intro before after hsplit
  rcases List.eq_nil_or_concat' after with rfl | ⟨after, other, rfl⟩
  · have hsame := (List.append_inj' hsplit rfl).2
    rw [List.cons.injEq] at hsame
    exact absurd (hsame.1 ▸ hitem) hlast
  · rw [← List.cons_append, ← List.append_assoc] at hsplit
    exact List.mem_append_left _ (hprecedes before after (List.append_inj' hsplit rfl).1)

theorem precedes_last (hitem : item ∈ members) (hlast : last ∉ members) :
    Precedes (members ++ [last]) item last := by
  intro before after hsplit
  rcases List.eq_nil_or_concat' after with rfl | ⟨after, other, rfl⟩
  · have hsame := (List.append_inj' hsplit rfl).2
    rw [List.cons.injEq] at hsame
    exact absurd (hsame.1 ▸ hitem) hlast
  · rw [← List.cons_append, ← List.append_assoc] at hsplit
    rw [← (List.cons.inj (List.append_inj' hsplit rfl).2).1]
    exact List.mem_append_right _ (List.mem_singleton_self last)

/-- A walk that goes on to a later member still meets the members in their order. -/
theorem Precedes.sublist (hprecedes : Precedes members item later)
    (hvisited : visited ++ [item] <+ members) : visited ++ [item] ++ [later] <+ members := by
  obtain ⟨front, back, rfl, hfront, hback⟩ := List.append_sublist_iff.mp hvisited
  obtain ⟨before, after, rfl⟩ := List.append_of_mem (List.singleton_sublist.mp hback)
  have hlater : later ∈ after := by
    apply hprecedes (front ++ before) after
    rw [List.append_assoc]
  rw [List.append_assoc]
  apply List.Sublist.append hfront
  apply List.Sublist.trans _ (List.sublist_append_right before _)
  exact (List.singleton_sublist.mpr hlater).cons_cons item

end Order

section Links

variable {next : ℕ → ℕ} {nil head item last : ℕ} {members : List ℕ}

/-- No link leads back to a member that came before. -/
structure Forward (next : ℕ → ℕ) (nil : ℕ) (members : List ℕ) : Prop where
  nodup : members.Nodup
  lt : ∀ item ∈ members, item < nil
  link : ∀ item ∈ members, next item = nil ∨ Precedes members item (next item)

theorem Forward.next_mem (hforward : Forward next nil members) (hitem : item ∈ members) :
    next item = nil ∨ next item ∈ members :=
  (hforward.link item hitem).imp_right fun hprecedes => hprecedes.mem hitem

/-- The walk from a member ends.  The induction is on what comes behind the member. -/
theorem Forward.linked_from (hforward : Forward next nil members) (size : ℕ) :
    ∀ before item after, members = before ++ item :: after → after.length ≤ size →
      ∃ items, Linked next nil item (item :: items) ∧ items <+ after := by
  induction size with
  | zero =>
      intro before item after hsplit hsize
      have hafter := List.eq_nil_of_length_eq_zero (Nat.le_zero.mp hsize)
      subst hafter
      have hitem : item ∈ members := by simp [hsplit]
      refine ⟨[], ⟨rfl, hforward.lt item hitem, ?_⟩, List.Sublist.refl _⟩
      rcases hforward.link item hitem with hnil | hprecedes
      · exact hnil
      · exact absurd (hprecedes before [] hsplit) List.not_mem_nil
  | succ size ih =>
      intro before item after hsplit hsize
      have hitem : item ∈ members := by simp [hsplit]
      rcases hforward.link item hitem with hnil | hprecedes
      · exact ⟨[], ⟨rfl, hforward.lt item hitem, hnil⟩, List.nil_sublist _⟩
      · obtain ⟨middle, rest, hrest⟩ := List.append_of_mem (hprecedes before after hsplit)
        have hlength : rest.length ≤ size := by
          have hsum := congrArg List.length hrest
          simp only [List.length_append, List.length_cons] at hsum
          omega
        obtain ⟨items, hlinked, hitems⟩ := ih (before ++ item :: middle) (next item) rest
          (by rw [hsplit, hrest, List.append_assoc, List.cons_append]) hlength
        refine ⟨next item :: items, ⟨rfl, hforward.lt item hitem, hlinked⟩, ?_⟩
        rw [hrest]
        exact (hitems.cons_cons _).trans (List.sublist_append_right middle _)

/-- A new member without a link. -/
theorem Forward.concat (hforward : Forward next nil members) (hlast : last ∉ members)
    (hlt : last < nil) (hnext : next last = nil) : Forward next nil (members ++ [last]) := by
  constructor
  case nodup => exact List.nodup_append.mpr ⟨hforward.nodup, List.nodup_singleton last, by grind⟩
  case lt =>
    intro item hitem
    rcases List.mem_append.mp hitem with hold | hnew
    · exact hforward.lt item hold
    · exact List.mem_singleton.mp hnew ▸ hlt
  case link =>
    intro item hitem
    rcases List.mem_append.mp hitem with hold | hnew
    · exact (hforward.link item hold).imp_right fun hprecedes => hprecedes.concat hold hlast
    · exact .inl (List.mem_singleton.mp hnew ▸ hnext)

/-- A member's link, set to the newest member. -/
theorem Forward.link_last (hforward : Forward next nil (members ++ [last]))
    (hitem : item ∈ members) :
    Forward (Function.update next item last) nil (members ++ [last]) := by
  have hlast : last ∉ members := by
    intro hmem
    exact (List.nodup_append.mp hforward.nodup).2.2 last hmem last
      (List.mem_singleton_self last) rfl
  refine ⟨hforward.nodup, hforward.lt, fun other hother => ?_⟩
  by_cases heq : other = item
  · subst other
    rw [Function.update_self]
    exact .inr (precedes_last hitem hlast)
  · rw [Function.update_of_ne heq]
    exact hforward.link other hother

end Links

end SimpleLinkHost.ForwardLinks
