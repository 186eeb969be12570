import Mathlib.Data.List.Basic
import Mathlib.Data.List.Nodup
import Mathlib.Data.Finset.Card
import Mathlib.Data.Finset.Range
import Mathlib.Logic.Function.Basic

/-!
# Index-linked lists

Several singly linked lists may share one array of successor links: a list is
then only a head index, and every index from `nil` on ends it.  `Linked` relates
such a head to the members it denotes, in order.  The lemmas below say what one
write to the link array does to that denotation: pushing an unlisted index,
popping the head, and unlinking an inner member.
-/

namespace SimpleLinkHost.IndexList

/-- The list that starts at `head` has exactly the members `items`, in order,
and ends at `nil`. -/
def Linked (next : ℕ → ℕ) (nil : ℕ) : ℕ → List ℕ → Prop
  | head, [] => head = nil
  | head, item :: rest => head = item ∧ item < nil ∧ Linked next nil (next item) rest

/-- Walk from `idx` to the first member that satisfies `test`.  `some none`
means that the end was reached; `none` means that the walk visited more than
`fuel` members, which on an array of `fuel` links happens only on a cycle. -/
def find? (next : ℕ → ℕ) (nil : ℕ) (test : ℕ → Bool) : ℕ → ℕ → Option (Option ℕ)
  | 0, idx => if idx < nil then none else some none
  | fuel + 1, idx =>
      if idx < nil then
        if test idx then some (some idx) else find? next nil test fuel (next idx)
      else some none

/-- The members met on the way from `idx` to the end, with the same convention
on endless walks as `find?`. -/
def members? (next : ℕ → ℕ) (nil : ℕ) : ℕ → ℕ → Option (List ℕ)
  | 0, idx => if idx < nil then none else some []
  | fuel + 1, idx =>
      if idx < nil then (members? next nil fuel (next idx)).map (idx :: ·) else some []

variable {next next' : ℕ → ℕ} {nil head : ℕ} {items : List ℕ}

@[simp]
theorem linked_nil : Linked next nil head [] ↔ head = nil := Iff.rfl

@[simp]
theorem linked_cons {item : ℕ} {rest : List ℕ} :
    Linked next nil head (item :: rest) ↔
      head = item ∧ item < nil ∧ Linked next nil (next item) rest := Iff.rfl

theorem Linked.lt (hlinked : Linked next nil head items) :
    ∀ item ∈ items, item < nil := by
  induction items generalizing head with
  | nil => simp
  | cons first rest ih =>
      obtain ⟨-, hfirst, hrest⟩ := hlinked
      intro item hitem
      rcases List.mem_cons.mp hitem with rfl | hitem
      · exact hfirst
      · exact ih hrest item hitem

/-- The members of a list are determined by its head. -/
theorem Linked.unique {others : List ℕ} (hleft : Linked next nil head items)
    (hright : Linked next nil head others) : items = others := by
  induction items generalizing head others with
  | nil =>
      cases others with
      | nil => rfl
      | cons first rest =>
          have hhead : head = nil := hleft
          have hfirst := hright.1
          have hlt := hright.2.1
          omega
  | cons first rest ih =>
      cases others with
      | nil =>
          have hhead : head = nil := hright
          have hfirst := hleft.1
          have hlt := hleft.2.1
          omega
      | cons second tail =>
          obtain ⟨rfl, -, hrest⟩ := hleft
          obtain ⟨rfl, -, htail⟩ := hright
          rw [ih hrest htail]

/-- The part of a list behind one of its members is the list that starts at
that member's link. -/
theorem Linked.suffix {before after : List ℕ} {item : ℕ}
    (hlinked : Linked next nil head (before ++ item :: after)) :
    Linked next nil (next item) after := by
  induction before generalizing head with
  | nil => exact hlinked.2.2
  | cons first rest ih => exact ih hlinked.2.2

/-- A list that ends has no cycle: a repeated member would have two different
rests behind it. -/
theorem Linked.nodup (hlinked : Linked next nil head items) : items.Nodup := by
  induction items generalizing head with
  | nil => exact List.nodup_nil
  | cons first rest ih =>
      obtain ⟨-, -, hrest⟩ := hlinked
      refine List.nodup_cons.mpr ⟨fun hmem => ?_, ih hrest⟩
      obtain ⟨before, after, rfl⟩ := List.append_of_mem hmem
      have hsame := congrArg List.length (hrest.unique hrest.suffix)
      simp only [List.length_append, List.length_cons] at hsame
      omega

theorem Linked.length_le (hlinked : Linked next nil head items) :
    items.length ≤ nil := by
  have hsubset : items.toFinset ⊆ Finset.range nil := by
    intro item hitem
    exact Finset.mem_range.mpr (hlinked.lt item (List.mem_toFinset.mp hitem))
  have hcard := Finset.card_le_card hsubset
  rwa [List.toFinset_card_of_nodup hlinked.nodup, Finset.card_range] at hcard

/-- Writes to links outside a list do not change it. -/
theorem Linked.congr (hlinked : Linked next nil head items)
    (hsame : ∀ item ∈ items, next' item = next item) :
    Linked next' nil head items := by
  induction items generalizing head with
  | nil => exact hlinked
  | cons first rest ih =>
      obtain ⟨hhead, hlt, hrest⟩ := hlinked
      refine ⟨hhead, hlt, ?_⟩
      rw [hsame first (List.mem_cons_self ..)]
      exact ih hrest fun item hitem => hsame item (List.mem_cons_of_mem _ hitem)

theorem Linked.update_of_not_mem {item value : ℕ}
    (hlinked : Linked next nil head items) (hitem : item ∉ items) :
    Linked (Function.update next item value) nil head items := by
  refine hlinked.congr fun other hother => ?_
  have hne : other ≠ item := by
    rintro rfl
    exact hitem hother
  exact Function.update_of_ne hne _ _

/-- Linking an unlisted index in front of a list. -/
theorem Linked.push {item : ℕ} (hlinked : Linked next nil head items)
    (hlt : item < nil) (hfresh : item ∉ items) :
    Linked (Function.update next item head) nil item (item :: items) := by
  refine ⟨rfl, hlt, ?_⟩
  rw [Function.update_self]
  exact hlinked.update_of_not_mem hfresh

/-- A list whose head is below `nil` starts with that head. -/
theorem Linked.exists_cons (hlinked : Linked next nil head items)
    (hlt : head < nil) :
    ∃ rest, items = head :: rest ∧ Linked next nil (next head) rest := by
  cases items with
  | nil => exact absurd hlinked (Nat.ne_of_lt hlt)
  | cons first rest =>
      obtain ⟨rfl, -, hrest⟩ := hlinked
      exact ⟨rest, rfl, hrest⟩

/-- On a list that ends, the walk is `List.find?` on its members. -/
theorem Linked.find?_eq (hlinked : Linked next nil head items) {test : ℕ → Bool}
    {fuel : ℕ} (hfuel : items.length ≤ fuel) :
    find? next nil test fuel head = some (items.find? test) := by
  induction items generalizing head fuel with
  | nil =>
      have hhead : head = nil := hlinked
      cases fuel <;> simp [find?, hhead]
  | cons first rest ih =>
      obtain ⟨rfl, hlt, hrest⟩ := hlinked
      cases fuel with
      | zero => simp at hfuel
      | succ fuel =>
          have htail := ih hrest (Nat.le_of_succ_le_succ hfuel)
          cases htest : test head <;> simp [find?, hlt, htest, htail]

/-- On a list that ends, the walk collects exactly its members. -/
theorem Linked.members?_eq (hlinked : Linked next nil head items)
    {fuel : ℕ} (hfuel : items.length ≤ fuel) :
    members? next nil fuel head = some items := by
  induction items generalizing head fuel with
  | nil =>
      have hhead : head = nil := hlinked
      cases fuel <;> simp [members?, hhead]
  | cons first rest ih =>
      obtain ⟨rfl, hlt, hrest⟩ := hlinked
      cases fuel with
      | zero => simp at hfuel
      | succ fuel => simp [members?, hlt, ih hrest (Nat.le_of_succ_le_succ hfuel)]

/-- In a list that ends, the first member whose link is an inner member `item`
stands right in front of it. -/
theorem Linked.find?_pred {before after : List ℕ} {pred item : ℕ}
    (hlinked : Linked next nil head (before ++ pred :: item :: after)) :
    (before ++ pred :: item :: after).find? (fun idx => next idx == item) =
      some pred := by
  induction before generalizing head with
  | nil =>
      have hpred : next pred = item := hlinked.2.2.1
      simp [hpred]
  | cons first rest ih =>
      have htail := hlinked.2.2
      have hnodup := hlinked.nodup
      have hfirst : next first ≠ item := by
        intro heq
        cases rest with
        | nil =>
            have hnext : next first = pred := htail.1
            simp [← heq, hnext] at hnodup
        | cons second more =>
            have hnext : next first = second := htail.1
            simp [← heq, hnext] at hnodup
      rw [List.cons_append, List.find?_cons_of_neg (by simpa using hfirst)]
      exact ih htail

/-- Unlinking an inner member: its predecessor takes over its link. -/
theorem Linked.unlink {before after : List ℕ} {pred item : ℕ}
    (hlinked : Linked next nil head (before ++ pred :: item :: after)) :
    Linked (Function.update next pred (next item)) nil head
      (before ++ pred :: after) := by
  induction before generalizing head with
  | nil =>
      have hnodup := hlinked.nodup
      obtain ⟨rfl, hlt, -, -, hafter⟩ := hlinked
      refine ⟨rfl, hlt, ?_⟩
      rw [Function.update_self]
      apply hafter.update_of_not_mem
      intro hmem
      simp [hmem] at hnodup
  | cons first rest ih =>
      have hnodup := hlinked.nodup
      obtain ⟨rfl, hlt, htail⟩ := hlinked
      refine ⟨rfl, hlt, ?_⟩
      have hne : head ≠ pred := by
        rintro rfl
        simp at hnodup
      rw [Function.update_of_ne hne]
      exact ih htail

/-- On a list that ends, the one member whose link is `nil` is the last. -/
theorem Linked.find?_last {before : List ℕ} {last : ℕ}
    (hlinked : Linked next nil head (before ++ [last])) :
    (before ++ [last]).find? (fun idx => next idx == nil) = some last := by
  induction before generalizing head with
  | nil =>
      have hlast : next last = nil := hlinked.2.2
      simp [hlast]
  | cons first rest ih =>
      obtain ⟨rfl, -, hrest⟩ := hlinked
      have hlt : next head < nil := by
        cases rest with
        | nil => exact hrest.1 ▸ hrest.2.1
        | cons second more => exact hrest.1 ▸ hrest.2.1
      rw [List.cons_append, List.find?_cons_of_neg (by simpa using Nat.ne_of_lt hlt)]
      exact ih hrest

/-- Linking an unlisted index behind the last member. -/
theorem Linked.append {before : List ℕ} {last item : ℕ}
    (hlinked : Linked next nil head (before ++ [last])) (hlt : item < nil)
    (hfresh : item ∉ before ++ [last]) (hnext : next item = nil) :
    Linked (Function.update next last item) nil head (before ++ [last] ++ [item]) := by
  induction before generalizing head with
  | nil =>
      obtain ⟨rfl, hhead, -⟩ := hlinked
      have hne : item ≠ head := fun hsame => hfresh (by simp [hsame])
      refine ⟨rfl, hhead, ?_, hlt, ?_⟩
      · rw [Function.update_self]
      · rw [Function.update_of_ne hne]
        exact hnext
  | cons first rest ih =>
      have hnodup := hlinked.nodup
      obtain ⟨rfl, hhead, hrest⟩ := hlinked
      have hne : head ≠ last := by
        rintro rfl
        simp at hnodup
      refine ⟨rfl, hhead, ?_⟩
      rw [Function.update_of_ne hne]
      exact ih hrest fun hmem => hfresh (List.mem_cons_of_mem _ hmem)

/-- The links and the head behind an append, which walks to the last member. -/
def append? (next : ℕ → ℕ) (nil head item : ℕ) : Option ((ℕ → ℕ) × ℕ) :=
  if head < nil then
    match find? next nil (fun idx => next idx == nil) nil head with
    | some (some last) => some (Function.update next last item, head)
    | _ => none
  else some (next, item)

theorem Linked.append?_eq {item : ℕ} (hlinked : Linked next nil head items) (hlt : item < nil)
    (hfresh : item ∉ items) (hnext : next item = nil) :
    ∃ next' head', append? next nil head item = some (next', head') ∧
      Linked next' nil head' (items ++ [item]) ∧ (head = nil ∨ head' = head) := by
  rcases List.eq_nil_or_concat' items with rfl | ⟨before, last, rfl⟩
  · have hhead : head = nil := hlinked
    refine ⟨next, item, if_neg (Nat.not_lt.mpr (Nat.le_of_eq hhead.symm)), ?_, .inl hhead⟩
    exact ⟨rfl, hlt, hnext⟩
  · have hhead : head < nil := by
      cases before with
      | nil => exact hlinked.1 ▸ hlinked.2.1
      | cons first rest => exact hlinked.1 ▸ hlinked.2.1
    refine ⟨_, head, ?_, hlinked.append hlt hfresh hnext, .inr rfl⟩
    rw [append?, if_pos hhead, hlinked.find?_eq hlinked.length_le, hlinked.find?_last]

/-- The list that starts at `head` ends, and its members are the indices that
satisfy `member`. -/
def Lists (next : ℕ → ℕ) (nil head : ℕ) (member : ℕ → Prop) : Prop :=
  ∃ items, Linked next nil head items ∧ ∀ index, index ∈ items ↔ member index

variable {member member' : ℕ → Prop}

theorem Lists.congr (hlists : Lists next nil head member)
    (hmember : ∀ index, member index ↔ member' index)
    (hsame : ∀ index, member index → next' index = next index) :
    Lists next' nil head member' := by
  obtain ⟨items, hlinked, hitems⟩ := hlists
  have hlinked' : Linked next' nil head items :=
    hlinked.congr fun index hindex => hsame index ((hitems index).mp hindex)
  exact ⟨items, hlinked', fun index => (hitems index).trans (hmember index)⟩

theorem Lists.head_le (hlists : Lists next nil head member) : head ≤ nil := by
  obtain ⟨items, hlinked, -⟩ := hlists
  cases items with
  | nil => exact Nat.le_of_eq hlinked
  | cons first rest =>
      obtain ⟨rfl, hlt, -⟩ := hlinked
      exact Nat.le_of_lt hlt

theorem Lists.lt (hlists : Lists next nil head member) {index : ℕ}
    (hindex : member index) : index < nil := by
  obtain ⟨items, hlinked, hitems⟩ := hlists
  exact hlinked.lt index ((hitems index).mpr hindex)

/-- Taking the head off a list. -/
theorem Lists.pop (hlists : Lists next nil head member) (hlt : head < nil) :
    member head ∧ Lists next nil (next head) fun index => member index ∧ index ≠ head := by
  obtain ⟨items, hlinked, hitems⟩ := hlists
  obtain ⟨rest, rfl, hrest⟩ := hlinked.exists_cons hlt
  have hhead := (List.nodup_cons.mp hlinked.nodup).1
  have hmember : ∀ index, index ∈ rest ↔ member index ∧ index ≠ head := by
    intro index
    rw [← hitems index, List.mem_cons]
    constructor
    · intro hindex
      exact ⟨Or.inr hindex, fun heq => hhead (heq ▸ hindex)⟩
    · intro hindex
      exact hindex.1.resolve_left hindex.2
  exact ⟨(hitems head).mp (List.mem_cons_self ..), rest, hrest, hmember⟩

theorem Lists.push {item : ℕ} (hlists : Lists next nil head member)
    (hlt : item < nil) (hfresh : ¬ member item) :
    Lists (Function.update next item head) nil item
      fun index => index = item ∨ member index := by
  obtain ⟨items, hlinked, hitems⟩ := hlists
  have hnot : item ∉ items := fun hmem => hfresh ((hitems item).mp hmem)
  have hmember : ∀ index, index ∈ item :: items ↔ index = item ∨ member index := by
    intro index
    rw [List.mem_cons, hitems index]
  exact ⟨item :: items, hlinked.push hlt hnot, hmember⟩

/-- A member other than the head has a predecessor. -/
theorem exists_pred_of_mem_tail {first item : ℕ} {rest : List ℕ}
    (hmem : item ∈ rest) :
    ∃ before pred after, first :: rest = before ++ pred :: item :: after := by
  induction rest generalizing first with
  | nil => simp at hmem
  | cons second tail ih =>
      by_cases heq : item = second
      · exact ⟨[], first, tail, by simp [heq]⟩
      · obtain ⟨before, pred, after, hsplit⟩ :=
          @ih second ((List.mem_cons.mp hmem).resolve_left heq)
        exact ⟨first :: before, pred, after, by simp [hsplit]⟩

end SimpleLinkHost.IndexList
