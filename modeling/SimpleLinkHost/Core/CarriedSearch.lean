import Mathlib.Data.List.Nodup

/-!
# Searches that carry a state along

A search goes through a list and stops at the first item that its test accepts, but the test
depends on a state which every item passed over may have changed.  It finds what a plain
search finds exactly if the state makes no difference to any item that the search comes to.
-/

namespace SimpleLinkHost.CarriedSearch

variable {State Item Found : Type*}
variable (pass : State → Item → State) (test : State → Item → Option Found)

/-- The first item that is accepted in the state in which the search comes to it. -/
def search : State → List Item → Option Found
  | _, [] => none
  | state, item :: rest =>
      match test state item with
      | some found => some found
      | none => search (pass state item) rest

/-- Every item that the search comes to is as `property` says of it and of the state. -/
def OnReached (property : State → Item → Prop) (state : State) (items : List Item) : Prop :=
  ∀ front item back, items = front ++ item :: back → search pass test state front = none →
    property (front.foldl pass state) item

/-- Every item behind items that `own` rejects is judged as `own` does. -/
def Agrees (own : Item → Option Found) (state : State) (items : List Item) : Prop :=
  ∀ front item back, items = front ++ item :: back → (∀ other ∈ front, own other = none) →
    test (front.foldl pass state) item = own item

variable {pass test}
variable {property : State → Item → Prop} {own : Item → Option Found}
variable {state : State} {item : Item} {rest items : List Item} {found : Found}

theorem search_cons_some (htest : test state item = some found) :
    search pass test state (item :: rest) = some found := by
  rw [search, htest]

theorem search_cons_none (htest : test state item = none) :
    search pass test state (item :: rest) = search pass test (pass state item) rest := by
  rw [search, htest]

/-- What is found is found at an item of the list. -/
theorem exists_of_search (hsearch : search pass test state items = some found) :
    ∃ reached, ∃ item ∈ items, test reached item = some found := by
  induction items generalizing state with
  | nil => cases hsearch
  | cons item rest ih =>
      cases htest : test state item with
      | some first =>
          rw [search_cons_some htest] at hsearch
          exact ⟨state, item, List.mem_cons_self, htest.trans hsearch⟩
      | none =>
          rw [search_cons_none htest] at hsearch
          obtain ⟨reached, other, hother, hfound⟩ := ih hsearch
          exact ⟨reached, other, List.mem_cons_of_mem _ hother, hfound⟩

/-- What holds of all splits of a list holds of its head, and of those of the rest. -/
theorem forall_split_cons {claim : List Item → Item → Prop} :
    (∀ front other back, item :: rest = front ++ other :: back → claim front other) ↔
      claim [] item ∧
        ∀ front other back, rest = front ++ other :: back → claim (item :: front) other := by
  constructor
  · intro hall
    refine ⟨hall [] item rest rfl, fun front other back hsplit => ?_⟩
    exact hall (item :: front) other back (by rw [hsplit, List.cons_append])
  · rintro ⟨hhead, hrest⟩ front other back hsplit
    cases front with
    | nil =>
        obtain ⟨hitem, -⟩ := List.cons.inj hsplit
        exact hitem ▸ hhead
    | cons first front =>
        obtain ⟨hitem, hback⟩ := List.cons.inj hsplit
        exact hitem ▸ hrest front other back hback

theorem onReached_nil : OnReached pass test property state [] := by
  intro front item back hsplit
  exact absurd hsplit.symm (List.append_ne_nil_of_right_ne_nil front (List.cons_ne_nil _ _))

theorem onReached_cons :
    OnReached pass test property state (item :: rest) ↔
      property state item ∧
        (test state item = none → OnReached pass test property (pass state item) rest) := by
  refine forall_split_cons.trans ?_
  apply and_congr
  · exact forall_prop_of_true rfl
  · constructor
    · intro hrest htest front other back hsplit hfront
      exact hrest front other back hsplit ((search_cons_none htest).trans hfront)
    · intro hrest front other back hsplit hfront
      cases htest : test state item with
      | some found =>
          rw [search_cons_some htest] at hfront
          cases hfront
      | none =>
          rw [search_cons_none htest] at hfront
          exact hrest htest front other back hsplit hfront

theorem agrees_nil : Agrees pass test own state [] := by
  intro front item back hsplit
  exact absurd hsplit.symm (List.append_ne_nil_of_right_ne_nil front (List.cons_ne_nil _ _))

theorem agrees_cons :
    Agrees pass test own state (item :: rest) ↔
      test state item = own item ∧
        (own item = none → Agrees pass test own (pass state item) rest) := by
  refine forall_split_cons.trans ?_
  apply and_congr
  · exact forall_prop_of_true (fun _ hmem => absurd hmem List.not_mem_nil)
  · constructor
    · intro hrest hown front other back hsplit hfront
      exact hrest front other back hsplit (List.forall_mem_cons.mpr ⟨hown, hfront⟩)
    · intro hrest front other back hsplit hfront
      obtain ⟨hown, hfront⟩ := List.forall_mem_cons.mp hfront
      exact hrest hown front other back hsplit hfront

/-- The search finds what a plain search finds exactly if every item that it comes to is judged
the same, provided that no two items give the same finding. -/
theorem search_eq_findSome?_iff
    (hown : ∀ reached item other found, test reached item = some found →
      own other = some found → item = other)
    (hnodup : items.Nodup) :
    search pass test state items = items.findSome? own ↔ Agrees pass test own state items := by
  induction items generalizing state with
  | nil => exact iff_of_true rfl agrees_nil
  | cons item rest ih =>
      obtain ⟨hfresh, hrest⟩ := List.nodup_cons.mp hnodup
      rw [agrees_cons, List.findSome?_cons]
      cases htest : test state item with
      | some found =>
          rw [search_cons_some htest]
          cases hfound : own item with
          | some first => simp
          | none =>
              refine iff_of_false (fun hsame => ?_) (fun hagrees => nomatch hagrees.1)
              obtain ⟨other, hother, hotherOwn⟩ := List.exists_of_findSome?_eq_some hsame.symm
              exact hfresh (hown state item other found htest hotherOwn ▸ hother)
      | none =>
          rw [search_cons_none htest]
          cases hfound : own item with
          | some first =>
              refine iff_of_false (fun hsame => ?_) (fun hagrees => nomatch hagrees.1)
              obtain ⟨reached, other, hother, hotherTest⟩ := exists_of_search hsame
              exact hfresh (hown reached other item first hotherTest hfound ▸ hother)
          | none =>
              rw [ih hrest]
              exact ⟨fun hagrees => ⟨rfl, fun _ => hagrees⟩, fun hboth => hboth.2 rfl⟩

/-- As long as the two agree, the search comes to the items behind those that `own` rejects. -/
theorem onReached_iff_of_agrees (hagrees : Agrees pass test own state items) :
    OnReached pass test property state items ↔
      ∀ front item back, items = front ++ item :: back → (∀ other ∈ front, own other = none) →
        property (front.foldl pass state) item := by
  have hfront : ∀ (front back : List Item) (state : State),
      Agrees pass test own state (front ++ back) →
      (search pass test state front = none ↔ ∀ other ∈ front, own other = none) := by
    intro front
    induction front with
    | nil => exact fun _ _ _ => iff_of_true rfl fun _ hmem => absurd hmem List.not_mem_nil
    | cons first front ih =>
        intro back state hagrees
        obtain ⟨hfirst, hrest⟩ := agrees_cons.mp hagrees
        rw [List.forall_mem_cons]
        cases hown : own first with
        | some found =>
            rw [search_cons_some (hfirst.trans hown)]
            simp
        | none =>
            rw [search_cons_none (hfirst.trans hown), ih back _ (hrest hown)]
            simp
  constructor
  · intro hreached front item back hsplit hrejected
    exact hreached front item back hsplit
      ((hfront front (item :: back) state (hsplit ▸ hagrees)).mpr hrejected)
  · intro hall front item back hsplit hnone
    exact hall front item back hsplit
      ((hfront front (item :: back) state (hsplit ▸ hagrees)).mp hnone)

end SimpleLinkHost.CarriedSearch
