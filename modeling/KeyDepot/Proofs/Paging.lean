import KeyDepot.Proofs.ClassMap
import KeyDepot.Proofs.PrefixListing

/-! Listing page by page, each page from the last key of the page before it. The pages join to the
whole listing, unless one of them ends in the empty key: a listing from the empty key starts over.
-/

namespace KeyDepot

/-- Keys cut into pages of `count`; the last page may be shorter. -/
def pagesOf (count : Nat) : List Bytes → List (List Bytes)
  | [] => []
  | first :: rest => (first :: rest.take (count - 1)) :: pagesOf count (rest.drop (count - 1))
termination_by keys => keys.length
decreasing_by simp only [List.length_drop, List.length_cons]; omega

theorem pagesOf_nil (count : Nat) : pagesOf count [] = [] := by rw [pagesOf]

theorem pagesOf_eq_cons {count : Nat} (positive : 0 < count) {keys : List Bytes}
    (more : keys ≠ []) :
    pagesOf count keys = keys.take count :: pagesOf count (keys.drop count) := by
  obtain ⟨size, rfl⟩ := Nat.exists_eq_add_of_le' positive
  cases keys with
  | nil => exact absurd rfl more
  | cons first rest => rw [pagesOf]; rfl

theorem flatten_pagesOf (count : Nat) (keys : List Bytes) :
    (pagesOf count keys).flatten = keys := by
  fun_induction pagesOf count keys with
  | case1 => rfl
  | case2 first rest ih =>
    rw [List.flatten_cons, ih, List.cons_append, List.take_append_drop]

section Engine

variable {σ : Type} [Engine σ] {count : Nat} {stem start : Bytes} {state : σ}
  {listed : List Bytes} {pages : List (List Bytes)}

/-- Calls that list `count` keys at a time, the first from `start` and each other from the last key
of the page before, up to the first empty page; with the pages they got. -/
inductive Paging (count : Nat) (stem : Bytes) : σ → Bytes → List (List Bytes) → Prop
  | done {state after : σ} {start : Bytes}
      (empty : Engine.perform (.listKeys start count stem) state = (.ok [], after)) :
      Paging count stem state start []
  | next {state after : σ} {start last : Bytes} {keys : List Bytes} {pages : List (List Bytes)}
      (page : Engine.perform (.listKeys start count stem) state = (.ok (keys ++ [last]), after))
      (rest : Paging count stem after last pages) :
      Paging count stem state start ((keys ++ [last]) :: pages)

theorem Paging.unique (paging : Paging count stem state start pages) {others : List (List Bytes)}
    (again : Paging count stem state start others) : others = pages := by
  induction paging generalizing others with
  | done empty =>
    cases again with
    | done _ => rfl
    | next page _ =>
      rw [empty] at page
      simp at page
  | next page rest ih =>
    cases again with
    | done empty =>
      rw [page] at empty
      simp at empty
    | next other later =>
      rw [page] at other
      obtain ⟨same, rfl⟩ := Prod.mk.inj other
      obtain ⟨rfl, rfl⟩ := List.append_singleton_inj.mp (Except.ok.inj same)
      rw [ih later]

/-- The listings of a state that begin with the stem, from the beginning and from each key listed
but the empty one, are parts of one list. -/
structure Lists (state : σ) (stem : Bytes) (listed : List Bytes) : Prop where
  first : ∀ count, Engine.perform (.listKeys [] count stem) state =
    (.ok (listed.take count), state)
  later : ∀ {before key rest}, listed = before ++ key :: rest → key ≠ [] → ∀ count,
    Engine.perform (.listKeys key count stem) state = (.ok (rest.take count), state)

/-- From `start` on, `rest` is still to be listed. -/
def Lists.From (listed : List Bytes) (start : Bytes) (rest : List Bytes) : Prop :=
  start = [] ∧ rest = listed ∨ start ≠ [] ∧ ∃ before, listed = before ++ start :: rest

namespace Lists

variable {rest : List Bytes}

theorem page (lists : Lists state stem listed) (position : From listed start rest) (count : Nat) :
    Engine.perform (.listKeys start count stem) state = (.ok (rest.take count), state) := by
  rcases position with ⟨rfl, rfl⟩ | ⟨named, before, whole⟩
  · exact lists.first count
  · exact lists.later whole named count

/-- The last key of a page leaves what follows the page to be listed. -/
theorem From.next {keys : List Bytes} {last : Bytes} (position : From listed start rest)
    (page : rest.take count = keys ++ [last]) (named : last ≠ []) :
    From listed last (rest.drop count) := by
  have split : rest = keys ++ last :: rest.drop count := by
    rw [List.append_cons, ← page, List.take_append_drop]
  rcases position with ⟨-, rfl⟩ | ⟨-, before, whole⟩
  · exact .inr ⟨named, keys, split⟩
  · refine .inr ⟨named, before ++ start :: keys, ?_⟩
    rw [List.append_assoc, List.cons_append, ← split]
    exact whole

/-- Pages of which none ends in the empty key are the pages of what is to be listed. -/
theorem pages_eq (lists : Lists state stem listed) (positive : 0 < count)
    (position : From listed start rest) (paging : Paging count stem state start pages)
    (named : ∀ page ∈ pages, page.getLast? ≠ some []) : pages = pagesOf count rest := by
  induction paging generalizing rest with
  | done empty =>
    rw [lists.page position] at empty
    have finished : rest = [] := by
      rcases List.take_eq_nil_iff.mp (Except.ok.inj (Prod.mk.inj empty).1) with zero | finished
      · omega
      · exact finished
    rw [finished, pagesOf_nil]
  | @next state after start last keys pages page later ih =>
    rw [lists.page position] at page
    obtain ⟨same, rfl⟩ := Prod.mk.inj page
    have cut : rest.take count = keys ++ [last] := Except.ok.inj same
    have more : rest ≠ [] := by
      rintro rfl
      simp at cut
    have ends : last ≠ [] := by
      have first := named (keys ++ [last]) (List.mem_cons_self ..)
      rintro rfl
      exact first List.getLast?_concat
    rw [pagesOf_eq_cons positive more, ← cut,
      ← ih lists (position.next cut ends) fun page member =>
        named page (List.mem_cons_of_mem _ member)]

/-- When no page of what is to be listed ends in the empty key, the calls come to an end. -/
theorem paging (lists : Lists state stem listed) (positive : 0 < count)
    (position : From listed start rest)
    (named : ∀ page ∈ pagesOf count rest, page.getLast? ≠ some []) :
    Paging count stem state start (pagesOf count rest) := by
  induction counted : rest.length using Nat.strong_induction_on generalizing start rest with
  | h size ih =>
    by_cases finished : rest = []
    · subst finished
      rw [pagesOf_nil]
      exact .done (by rw [lists.page position, List.take_nil])
    · rw [pagesOf_eq_cons positive finished] at named ⊢
      have some_ : rest.take count ≠ [] := by
        simp only [ne_eq, List.take_eq_nil_iff, finished, or_false]
        omega
      obtain ⟨keys, last, cut⟩ := (List.eq_nil_or_concat' _).resolve_left some_
      have ends : last ≠ [] := by
        have first := named (rest.take count) (List.mem_cons_self ..)
        rintro rfl
        exact first (by rw [cut]; exact List.getLast?_concat)
      have shorter : (rest.drop count).length < size := by
        have counts := List.length_pos_iff.mpr finished
        rw [List.length_drop]
        omega
      have page := lists.page position count
      rw [cut] at page ⊢
      exact .next page (ih _ shorter (position.next cut ends)
        (fun page member => named page (List.mem_cons_of_mem _ member)) rfl)

/-- A page that ends in the empty key is followed by the pages from the beginning. -/
theorem starts_over (lists : Lists state stem listed) (paging : Paging count stem state start pages)
    (position : From listed start rest) {page : List Bytes} (got : page ∈ pages)
    (ends : page.getLast? = some []) :
    ∃ others, Paging count stem state [] others ∧ others.length < pages.length := by
  induction paging generalizing rest with
  | done _ => cases got
  | @next state after start last keys pages listing later ih =>
    rw [lists.page position] at listing
    obtain ⟨same, rfl⟩ := Prod.mk.inj listing
    by_cases named : last = []
    · subst named
      exact ⟨pages, later, by simp⟩
    · have position := position.next (Except.ok.inj same) named
      rcases List.mem_cons.mp got with rfl | member
      · rw [List.getLast?_concat] at ends
        exact absurd (Option.some.inj ends) named
      · obtain ⟨others, anew, fewer⟩ := ih lists position member
        exact ⟨others, anew, Nat.lt_succ_of_lt fewer⟩

/-- Listing page by page from the beginning comes to an end exactly when no page of the listing ends
in the empty key, and then the pages are those of the listing. -/
theorem paging_iff (lists : Lists state stem listed) (positive : 0 < count) :
    Paging count stem state [] pages ↔
      pages = pagesOf count listed ∧ ∀ page ∈ pages, page.getLast? ≠ some [] := by
  have beginning : From listed [] listed := .inl ⟨rfl, rfl⟩
  constructor
  · intro paging
    have named : ∀ page ∈ pages, page.getLast? ≠ some [] := by
      intro page got ends
      obtain ⟨others, anew, fewer⟩ := lists.starts_over paging beginning got ends
      rw [paging.unique anew] at fewer
      exact Nat.lt_irrefl _ fewer
    exact ⟨lists.pages_eq positive beginning paging named, named⟩
  · rintro ⟨rfl, named⟩
    exact lists.paging positive beginning named

end Lists

end Engine

/-- The listings of a store in memory under an order that is a total preorder. -/
theorem MapStore.lists {store : MapStore} [Std.TransCmp store.comparison]
    (ascending : store.entries.Ascending store.comparison) (stem : Bytes) :
    Lists store stem ((PrefixScan.matching Entry.key stem store.entries).map Entry.key) where
  first count := by
    simp only [Engine.perform, MapStore.perform, MapStore.page, Entries.page_eq_take,
      Entries.after_nil, List.map_take]
  later := by
    intro before key rest listed named count
    obtain ⟨front, back, whole, -, ends⟩ := List.map_eq_append_iff.mp listed
    obtain ⟨entry, others, rfl, rfl, rfl⟩ := List.map_eq_cons_iff.mp ends
    obtain ⟨passed, left, held, found⟩ := PrefixScan.matching_split whole
    have after : store.entries.after store.comparison entry.key = left := by
      rw [held] at ascending ⊢
      exact ascending.after_split named
    simp only [Engine.perform, MapStore.perform, MapStore.page, Entries.page_eq_take, after, found,
      List.map_take]

/-- Whatever was done to a store in memory, the keys that begin with a stem, listed page by page,
are those that one listing without a limit gives, each once and in its order. The pages come to an
end exactly when none of them has the empty key at its end. -/
theorem paging_joins_listing (options : StoreOptions) (steps : List StoreStep) (stem : Bytes)
    {count limit : Nat} (positive : 0 < count) :
    let store := (feed StoreStep.onEngine steps ({ options } : MapStore)).2
    store.size ≤ limit → ∃ listed,
      Engine.perform (.listKeys [] limit stem) store = (.ok listed, store) ∧ listed.Nodup ∧
      (∀ pages, Paging count stem store [] pages →
        pages = pagesOf count listed ∧ pages.flatten = listed) ∧
      ((∃ pages, Paging count stem store [] pages) ↔
        ∀ page ∈ pagesOf count listed, page.getLast? ≠ some []) := by
  intro store unlimited
  have holds := ClassMap.Holds.run options steps
  have total : Std.TransCmp store.comparison := holds.total
  have ascending : store.entries.Ascending store.comparison := by
    rw [show store.comparison = _ from holds.order]
    exact holds.ascending
  have lists := MapStore.lists ascending stem
  have within := PrefixScan.matching_sublist Entry.key stem store.entries
  refine ⟨(PrefixScan.matching Entry.key stem store.entries).map Entry.key, ?_, ?_, ?_, ?_⟩
  · rw [lists.first limit, List.take_of_length_le]
    rw [List.length_map]
    exact within.length_le.trans unlimited
  · exact ascending.nodup_keys.sublist (within.map Entry.key)
  · intro pages paging
    obtain ⟨rfl, -⟩ := (lists.paging_iff positive).mp paging
    exact ⟨rfl, flatten_pagesOf ..⟩
  · constructor
    · rintro ⟨pages, paging⟩
      obtain ⟨rfl, named⟩ := (lists.paging_iff positive).mp paging
      exact named
    · intro named
      exact ⟨_, (lists.paging_iff positive).mpr ⟨rfl, named⟩⟩

/-- The empty key, `a` and `b` in pages of two. -/
theorem paging_joins_listing_three :
    let store := (feed StoreStep.onEngine
      [.put [98] [], .put [] [], .put [97] []] ({ options := {} } : MapStore)).2
    0 < 2 ∧ store.size ≤ 3 ∧
      ∃ pages, Paging 2 [] store [] pages ∧ pages.flatten = [[], [97], [98]] := by
  refine ⟨by decide, by decide, ?_⟩
  obtain ⟨listed, all, -, joined, ends⟩ := paging_joins_listing {}
    [.put [98] [], .put [] [], .put [97] []] [] (by decide : 0 < 2) (by decide : _ ≤ 3)
  obtain rfl : [[], [97], [98]] = listed := Except.ok.inj (congrArg Prod.fst all)
  obtain ⟨pages, paging⟩ := ends.mpr (by simp [pagesOf])
  exact ⟨pages, paging, (joined pages paging).2⟩

/-- The empty key and `a` in pages of one: each page is the first. -/
theorem empty_key_starts_over :
    let store := (feed StoreStep.onEngine
      [.put [] [], .put [97] []] ({ options := {} } : MapStore)).2
    Engine.perform (.listKeys [] 2 []) store = (.ok [[], [97]], store) ∧
      ¬ ∃ pages, Paging 1 [] store [] pages := by
  intro store
  refine ⟨rfl, ?_⟩
  have holds := ClassMap.Holds.run {} [.put [] [], .put [97] []]
  have total : Std.TransCmp store.comparison := holds.total
  have ascending : store.entries.Ascending store.comparison := by decide
  have lists := MapStore.lists ascending []
  rintro ⟨pages, paging⟩
  obtain ⟨rfl, named⟩ := (lists.paging_iff Nat.one_pos).mp paging
  have first : [[]] ∈ pagesOf 1 [[], [97]] := by simp [pagesOf]
  exact named [[]] first rfl

end KeyDepot
