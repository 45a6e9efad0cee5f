/-!
# Unique names

A name that nothing else holds: the wanted one if it is free, and otherwise the wanted one with
the least number from two on that makes it free.

* `firstFree` — the search through the numbered names.
* `unique` — the name that is given out.
-/

namespace ApiTypes.Name

/-- A name followed by a number in decimal digits. -/
def numbered (base : String) (i : Nat) : String :=
  base ++ i.repr

/-- The first of the names `base` with the numbers `i`, `i + 1`, … that is not used.  A used
candidate is struck from the list before the next one is tried, so the search ends. -/
def firstFree (base : String) (used : List String) (i : Nat) : String :=
  if numbered base i ∈ used then firstFree base (used.erase (numbered base i)) (i + 1)
  else numbered base i
termination_by used.length
decreasing_by
  rename_i h
  rw [List.length_erase_of_mem h]
  exact Nat.sub_lt (List.length_pos_of_mem h) Nat.one_pos

/-- The name `base` when it is not used, and otherwise `base` with the least number from two on
that is not. -/
def unique (base : String) (used : List String) : String :=
  if base ∈ used then firstFree base used 2 else base

end ApiTypes.Name
