import ApiTypes.Proofs.ClassName
import Mathlib.Data.Finset.Card
import Mathlib.Order.Bounds.Basic
import Mathlib.Order.Interval.Finset.Nat

/-!
# The search for a unique name

A unique name is found by trying: first the wanted name, then that name with the numbers from two
on, until one of them is not taken.  Nothing in such a search bounds the number of tries, and it
ends all the same: numbered names are all different, and none of them is the wanted name, so every
try that fails uses up another one of the taken names.

* `Name.Tries`, `Name.Search` — the search as a loop without a bound, with the tries that it takes.
* `Name.Blocked` — what holds whenever a number is tried: all names before it are taken.
  `Blocked.next` is one turn of the loop, `Blocked.le_card` the count of the names.
* `Blocked.exists_tries`, `Tries.blocked` — the loop ends, and with which number it does.
* `unique_leastFree` — **the search ends with the least free name**, soon enough, and `unique` is
  what it finds.
-/

namespace ApiTypes.Name

variable {taken : String → Prop} {base name name' : String} {i tries tries' : Nat}
  {names : Finset String}

/-! ## Trying without a bound -/

/-- **Trying one number after the other** from `i` on, until a name is not taken: that name, and how
many were tried. -/
inductive Tries (taken : String → Prop) (base : String) : Nat → Nat → String → Prop where
  | found {i : Nat} (hfree : ¬ taken (numbered base i)) : Tries taken base i 1 (numbered base i)
  | next {i tries : Nat} {name : String} (htaken : taken (numbered base i))
      (rest : Tries taken base (i + 1) tries name) : Tries taken base i (tries + 1) name

/-- **The whole search**: the wanted name when it is not taken, and otherwise what is found from
number two on.  Counted are the tries after the wanted name. -/
inductive Search (taken : String → Prop) (base : String) : Nat → String → Prop where
  | plain (hfree : ¬ taken base) : Search taken base 0 base
  | numbered {tries : Nat} {name : String} (htaken : taken base)
      (h : Tries taken base 2 tries name) : Search taken base tries name

/-- Trying ends in one way only. -/
lemma Tries.unique (h : Tries taken base i tries name) (h' : Tries taken base i tries' name') :
    tries' = tries ∧ name' = name := by
  induction h generalizing tries' with
  | found hfree =>
    cases h' with
    | found _ => exact ⟨rfl, rfl⟩
    | next htaken _ => exact (hfree htaken).elim
  | next htaken _ ih =>
    cases h' with
    | found hfree => exact (hfree htaken).elim
    | next _ rest =>
      obtain ⟨rfl, rfl⟩ := ih rest
      exact ⟨rfl, rfl⟩

/-- So does the whole search. -/
lemma Search.unique (h : Search taken base tries name) (h' : Search taken base tries' name') :
    tries' = tries ∧ name' = name := by
  cases h with
  | plain hfree =>
    cases h' with
    | plain _ => exact ⟨rfl, rfl⟩
    | numbered htaken _ => exact (hfree htaken).elim
  | numbered htaken h =>
    cases h' with
    | plain hfree => exact (hfree htaken).elim
    | numbered _ h' => exact h.unique h'

/-! ## One try -/

/-- **What holds whenever number `i` is tried**: the wanted name is taken, and so is every name with
a smaller number. -/
structure Blocked (taken : String → Prop) (base : String) (i : Nat) : Prop where
  wanted : taken base
  smaller : ∀ k, 2 ≤ k → k < i → taken (numbered base k)

/-- It holds before the first number is tried. -/
lemma Blocked.two (h : taken base) : Blocked taken base 2 :=
  ⟨h, fun _ hk hlt => absurd hlt (Nat.not_lt.2 hk)⟩

/-- A try that fails keeps it. -/
lemma Blocked.next (h : Blocked taken base i) (htaken : taken (numbered base i)) :
    Blocked taken base (i + 1) := by
  refine ⟨h.wanted, fun k hk hlt => ?_⟩
  rcases Nat.lt_succ_iff_lt_or_eq.1 hlt with hlt | rfl
  · exact h.smaller k hk hlt
  · exact htaken

lemma numbered_ne (base : String) (i : Nat) : numbered base i ≠ base := by
  intro h
  have hdigits : Nat.toDigits 10 i = [] := by
    simpa [toList_numbered] using congrArg String.toList h
  exact Nat.toDigits_ne_nil hdigits

/-- The names that are taken then are the wanted one and the numbered ones before `i`, all of them
different. -/
lemma Blocked.le_card (h : Blocked taken base i) (hnames : ∀ name, taken name → name ∈ names) :
    i ≤ names.card + 1 := by
  have hsubset : insert base ((Finset.Ico 2 i).image (numbered base)) ⊆ names := by
    refine Finset.insert_subset (hnames _ h.wanted) (Finset.image_subset_iff.2 fun k hk => ?_)
    obtain ⟨htwo, hlt⟩ := Finset.mem_Ico.1 hk
    exact hnames _ (h.smaller k htwo hlt)
  have hbase : base ∉ (Finset.Ico 2 i).image (numbered base) := fun hmem => by
    obtain ⟨k, -, heq⟩ := Finset.mem_image.1 hmem
    exact numbered_ne base k heq
  have hcard := Finset.card_le_card hsubset
  rw [Finset.card_insert_of_notMem hbase,
    Finset.card_image_of_injective _ fun _ _ => numbered_injective, Nat.card_Ico] at hcard
  omega

/-! ## All tries -/

/-- **Trying ends** when there are finitely many taken names. -/
theorem Blocked.exists_tries (hnames : ∀ name, taken name → name ∈ names) {i : Nat}
    (h : Blocked taken base i) : ∃ tries name, Tries taken base i tries name := by
  by_cases htaken : taken (numbered base i)
  · -- the number that was tried used up one more of the taken names
    have hnext := h.next htaken
    have hcard := hnext.le_card hnames
    obtain ⟨tries, name, rest⟩ := exists_tries hnames hnext
    exact ⟨tries + 1, name, .next htaken rest⟩
  · exact ⟨1, numbered base i, .found htaken⟩
termination_by names.card + 1 - i

/-- **It ends with the first number whose name is not taken.** -/
lemma Tries.blocked (h : Tries taken base i tries name) (hblocked : Blocked taken base i) :
    ∃ j, j + 1 = i + tries ∧ name = numbered base j ∧ i ≤ j ∧ Blocked taken base j ∧
      ¬ taken (numbered base j) := by
  induction h with
  | @found i hfree => exact ⟨i, rfl, rfl, Nat.le_refl i, hblocked, hfree⟩
  | next htaken _ ih =>
    obtain ⟨j, hj, hname, hle, hlast, hfree⟩ := ih (hblocked.next htaken)
    exact ⟨j, by omega, hname, by omega, hlast, hfree⟩

/-- What the search finds is the first name that is free. -/
lemma Search.firstFree (h : Search taken base tries name) : FirstFree taken base name := by
  cases h with
  | plain hfree => exact .plain hfree
  | numbered htaken h =>
    obtain ⟨j, -, rfl, hj, hblocked, hfree⟩ := h.blocked (.two htaken)
    exact .numbered htaken hj hfree hblocked.smaller

/-- **The search ends**, after at most as many tries as there are taken names. -/
lemma exists_search (hnames : ∀ name, taken name → name ∈ names) :
    ∃ tries name, Search taken base tries name ∧ tries ≤ names.card := by
  by_cases htaken : taken base
  · obtain ⟨tries, name, h⟩ := Blocked.exists_tries hnames (.two htaken)
    obtain ⟨j, hj, -, -, hblocked, -⟩ := h.blocked (.two htaken)
    have hcard := hblocked.le_card hnames
    exact ⟨tries, name, .numbered htaken h, by omega⟩
  · exact ⟨0, base, .plain htaken, Nat.zero_le _⟩

/-- **The search ends with the least free name.**  Whatever names are in use, trying without a bound
ends, in one way only, and after at most as many tries beyond the wanted name as names are in use.
The name that it finds is `unique`, which is not in use: it is the wanted one when that is free, and
otherwise the one with the least number from two on that makes it free. -/
theorem unique_leastFree (base : String) (used : List String) :
    ∃ tries ≤ used.toFinset.card,
      Search (· ∈ used) base tries (unique base used) ∧
      (∀ tries' name, Search (· ∈ used) base tries' name →
        tries' = tries ∧ name = unique base used) ∧
      unique base used ∉ used ∧
      (base ∉ used ∧ tries = 0 ∧ unique base used = base ∨
        base ∈ used ∧ unique base used = numbered base (tries + 1) ∧
          IsLeast {i | 2 ≤ i ∧ numbered base i ∉ used} (tries + 1)) := by
  obtain ⟨tries, name, hsearch, hle⟩ :
      ∃ tries name, Search (· ∈ used) base tries name ∧ tries ≤ used.toFinset.card :=
    exists_search fun _ => List.mem_toFinset.2
  have hunique : name = unique base used := hsearch.firstFree.eq (unique_firstFree base used)
  refine ⟨tries, hle, hunique ▸ hsearch, fun tries' name' h => ?_, unique_not_mem base used, ?_⟩
  · exact hunique ▸ hsearch.unique h
  · cases hsearch with
    | plain hfree => exact Or.inl ⟨hfree, rfl, hunique.symm⟩
    | numbered htaken h =>
      obtain ⟨j, hj, rfl, htwo, hblocked, hfree⟩ := h.blocked (.two htaken)
      obtain rfl : j = tries + 1 := by omega
      refine Or.inr ⟨htaken, hunique.symm, ⟨htwo, hfree⟩, ?_⟩
      rintro k ⟨hk, hkfree⟩
      exact Nat.le_of_not_lt fun hlt => hkfree (hblocked.smaller k hk hlt)

/-- With two names in use it takes two tries to find a third. -/
example : unique "Widget" ["Widget", "Widget2"] = "Widget3" := by
  decide +kernel

end ApiTypes.Name
