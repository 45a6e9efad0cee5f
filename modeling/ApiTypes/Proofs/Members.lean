import ApiTypes.Json.Basic
import Mathlib.Data.List.Nodup
import Mathlib.Data.String.Basic
import Mathlib.Tactic.Lemma

/-!
# Looking up named values

How `Members.get?` answers after the members were changed.

* `mem_of_get?`, `get?_of_mem` — a found member is there, and one that is there is found when no
  two members share a name.
* `get?_append`, `get?_map`, `get?_filter_ne` — look-ups in longer, changed and shorter lists.
* `put_of_not_mem`, `foldl_put`, `get?_put` — new names go to the end, and what is found after that.
* `names_put_of_mem` — a name that is there already stays in its place.
* `get?_insert` — what is found after a name was put in its place in the order of names.
* `foldl_insert`, `sorted_insert` — names in increasing order stay in it.
-/

namespace ApiTypes.Members

variable {α β : Type} {members : List (String × α)} {name : String} {value : α}

lemma mem_names : name ∈ names members ↔ ∃ v, (name, v) ∈ members := by
  simp [names]

lemma mem_names_of_mem (h : (name, value) ∈ members) : name ∈ names members :=
  mem_names.2 ⟨value, h⟩

lemma get?_cons (entry : String × α) (rest : List (String × α)) (name : String) :
    get? (entry :: rest) name = if entry.1 = name then some entry.2 else get? rest name := by
  simp only [get?]
  rw [List.find?_cons]
  by_cases h : entry.1 = name
  · simp [h]
  · simp [h, beq_eq_false_iff_ne.2 h]

lemma get?_eq_none : get? members name = none ↔ name ∉ names members := by
  induction members with
  | nil => simp [get?, names]
  | cons entry rest ih =>
    rw [get?_cons]
    by_cases h : entry.1 = name
    · simp [h, names]
    · simpa [h, names, Ne.symm h] using ih

lemma get?_isSome : (get? members name).isSome ↔ name ∈ names members := by
  rw [Option.isSome_iff_ne_none, ne_eq, get?_eq_none, not_not]

lemma has_iff : has members name = true ↔ name ∈ names members := by
  simp [has, names]

lemma mem_of_get? (h : get? members name = some value) : (name, value) ∈ members := by
  induction members with
  | nil => cases h
  | cons entry rest ih =>
    rw [get?_cons] at h
    split at h
    · rename_i heq
      injection h with h
      subst heq h
      exact List.mem_cons_self
    · exact List.mem_cons_of_mem _ (ih h)

lemma get?_of_mem (hnd : (names members).Nodup) (h : (name, value) ∈ members) :
    get? members name = some value := by
  induction members with
  | nil => cases h
  | cons entry rest ih =>
    obtain ⟨hfresh, hrest⟩ := List.nodup_cons.1 hnd
    rw [get?_cons]
    rcases List.mem_cons.1 h with rfl | h
    · simp
    · have hne : entry.1 ≠ name := by
        rintro rfl
        exact hfresh (mem_names_of_mem h)
      rw [if_neg hne, ih hrest h]

/-- A name that no two members share is that of one member. -/
lemma filter_of_mem (hnd : (names members).Nodup) (h : (name, value) ∈ members) :
    (members.filter fun e => e.1 = name) = [(name, value)] := by
  induction members with
  | nil => cases h
  | cons entry rest ih =>
    obtain ⟨hfresh, hrest⟩ := List.nodup_cons.1 hnd
    rcases List.mem_cons.1 h with rfl | h
    · rw [List.filter_cons_of_pos (by simp), List.filter_eq_nil_iff.2]
      intro e he heq
      exact hfresh (List.mem_map.2 ⟨e, he, by simpa using heq⟩)
    · have hne : entry.1 ≠ name := by
        rintro rfl
        exact hfresh (mem_names_of_mem h)
      rw [List.filter_cons_of_neg (by simpa using hne), ih hrest h]

lemma get?_append (xs ys : List (String × α)) (name : String) :
    get? (xs ++ ys) name = (get? xs name).or (get? ys name) := by
  induction xs with
  | nil => rfl
  | cons entry rest ih =>
    rw [List.cons_append, get?_cons, get?_cons, ih]
    split <;> rfl

/-- Changing the values behind the names changes what is found. -/
lemma get?_map (f : String → α → β) (members : List (String × α)) (name : String) :
    get? (members.map fun e => (e.1, f e.1 e.2)) name = (get? members name).map (f name) := by
  induction members with
  | nil => rfl
  | cons entry rest ih =>
    rw [List.map_cons, get?_cons, get?_cons, ih]
    by_cases h : entry.1 = name
    · simp [h]
    · simp [h]

lemma names_map (f : String → α → β) (members : List (String × α)) :
    names (members.map fun e => (e.1, f e.1 e.2)) = names members := by
  simp [names]

/-- Taking a name out changes what is found under that name alone. -/
lemma get?_filter_ne (members : List (String × α)) (gone name : String) :
    get? (members.filter fun e => e.1 ≠ gone) name =
      if name = gone then none else get? members name := by
  induction members with
  | nil => simp [get?]
  | cons entry rest ih =>
    by_cases he : entry.1 = gone
    · rw [List.filter_cons_of_neg (by simpa using he), ih, get?_cons]
      by_cases hn : name = gone
      · simp [hn]
      · simp [hn, he, Ne.symm hn]
    · rw [List.filter_cons_of_pos (by simpa using he), get?_cons, ih, get?_cons]
      by_cases hn : name = gone
      · simp [hn, he]
      · simp [hn]

lemma names_filter_ne (members : List (String × α)) (gone : String) :
    names (members.filter fun e => e.1 ≠ gone) = (names members).filter (· ≠ gone) := by
  simp [names, List.filter_map, Function.comp_def]

/-- A name that is not there yet goes to the end. -/
lemma put_of_not_mem (h : name ∉ names members) :
    put members name value = members ++ [(name, value)] := by
  induction members with
  | nil => rfl
  | cons entry rest ih =>
    have hne : entry.1 ≠ name := fun he => h (by simp [names, he])
    have hrest : name ∉ names rest := fun hr => h (List.mem_cons_of_mem _ hr)
    rw [put, if_neg hne, ih hrest, List.cons_append]

/-- New names that come one by one go to the end, in order. -/
lemma foldl_put {found more : List (String × α)} (h : (names found ++ names more).Nodup) :
    more.foldl (fun found e => put found e.1 e.2) found = found ++ more := by
  induction more generalizing found with
  | nil => rw [List.foldl_nil, List.append_nil]
  | cons e more ih =>
    have hfresh : e.1 ∉ names found := fun hmem =>
      (List.nodup_append.1 h).2.2 _ hmem _ List.mem_cons_self rfl
    rw [List.foldl_cons, put_of_not_mem hfresh, ih, List.append_assoc, List.singleton_append]
    simpa [names] using h

/-- Giving a name a value changes what is found under that name alone. -/
lemma get?_put (members : List (String × α)) (name : String) (value : α) (other : String) :
    get? (put members name value) other =
      if name = other then some value else get? members other := by
  induction members with
  | nil => rw [put, get?_cons]
  | cons entry rest ih =>
    rw [put]
    by_cases h : entry.1 = name
    · rw [if_pos h, get?_cons, get?_cons, h]
      split <;> rfl
    · rw [if_neg h, get?_cons, get?_cons, ih]
      by_cases he : entry.1 = other
      · have hne : name ≠ other := fun hn => h (he.trans hn.symm)
        simp [he, hne]
      · simp [he]

/-- A name that is there already stays in its place. -/
lemma names_put_of_mem (h : name ∈ names members) :
    names (put members name value) = names members := by
  induction members with
  | nil => cases h
  | cons entry rest ih =>
    rw [put]
    by_cases he : entry.1 = name
    · simp [he, names]
    · rw [if_neg he]
      have hrest : name ∈ names rest := (List.mem_cons.1 h).resolve_left (Ne.symm he)
      exact congrArg (entry.1 :: ·) (ih hrest)

lemma get?_insert (members : List (String × α)) (name : String) (value : α) (other : String) :
    get? (insert members name value) other =
      if name = other then some value else get? members other := by
  induction members with
  | nil => rw [insert, get?_cons]
  | cons entry rest ih =>
    rw [insert]
    by_cases h : entry.1 = name
    · rw [if_pos h, get?_cons, get?_cons, h]
      split <;> rfl
    · rw [if_neg h]
      split
      · rw [get?_cons]
      · rw [get?_cons, get?_cons, ih]
        by_cases he : entry.1 = other
        · have hne : name ≠ other := fun hn => h (he.trans hn.symm)
          simp [he, hne]
        · simp [he]

lemma mem_of_mem_insert {e : String × α} (h : e ∈ insert members name value) :
    e = (name, value) ∨ e ∈ members := by
  induction members with
  | nil => simpa [insert] using h
  | cons entry rest ih =>
    rw [insert] at h
    split at h
    · rcases List.mem_cons.1 h with rfl | h
      · exact .inl rfl
      · exact .inr (List.mem_cons_of_mem _ h)
    · split at h
      · exact List.mem_cons.1 h
      · rcases List.mem_cons.1 h with rfl | h
        · exact .inr List.mem_cons_self
        · exact (ih h).imp_right (List.mem_cons_of_mem _)

/-- A name that is greater than all others goes to the end. -/
lemma insert_of_lt (h : ∀ n ∈ names members, n < name) :
    insert members name value = members ++ [(name, value)] := by
  induction members with
  | nil => rfl
  | cons entry rest ih =>
    obtain ⟨hentry, hrest⟩ : entry.1 < name ∧ ∀ n ∈ names rest, n < name := by
      simpa [names] using h
    rw [insert, if_neg hentry.ne, if_neg hentry.not_gt, ih hrest, List.cons_append]

/-- Names that come one by one in increasing order go to the end, in order. -/
lemma foldl_insert {found more : List (String × α)}
    (h : (names found ++ names more).Pairwise (· < ·)) :
    more.foldl (fun found e => insert found e.1 e.2) found = found ++ more := by
  induction more generalizing found with
  | nil => rw [List.foldl_nil, List.append_nil]
  | cons e more ih =>
    have hlast : ∀ n ∈ names found, n < e.1 := fun n hn =>
      (List.pairwise_append.1 h).2.2 n hn e.1 List.mem_cons_self
    rw [List.foldl_cons, insert_of_lt hlast, ih, List.append_assoc, List.singleton_append]
    simpa [names] using h

/-- Names in increasing order stay so when another one is put in its place. -/
lemma sorted_insert (h : (names members).Pairwise (· < ·)) :
    (names (insert members name value)).Pairwise (· < ·) := by
  induction members with
  | nil => exact List.pairwise_singleton _ _
  | cons entry rest ih =>
    obtain ⟨hless, hrest⟩ := List.pairwise_cons.1 h
    rw [insert]
    by_cases heq : entry.1 = name
    · rw [if_pos heq]
      exact List.pairwise_cons.2 ⟨heq ▸ hless, hrest⟩
    · rw [if_neg heq]
      by_cases hlt : name < entry.1
      · rw [if_pos hlt]
        refine List.pairwise_cons.2 ⟨?_, h⟩
        exact List.forall_mem_cons.2 ⟨hlt, fun n hn => hlt.trans (hless n hn)⟩
      · rw [if_neg hlt]
        refine List.pairwise_cons.2 ⟨?_, ih hrest⟩
        intro n hn
        obtain ⟨v, hv⟩ := mem_names.1 hn
        rcases mem_of_mem_insert hv with hv | hv
        · cases hv
          exact lt_of_le_of_ne (not_lt.1 hlt) heq
        · exact hless n (mem_names_of_mem hv)

end ApiTypes.Members
