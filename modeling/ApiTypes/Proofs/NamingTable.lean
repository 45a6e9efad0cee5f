import ApiTypes.Proofs.NamingHistory
import ApiTypes.Text.Latin
import Mathlib.Data.Finset.Card
import Mathlib.Data.Finset.Image

/-!
# What a table of names tells

Names are suggested and forced in any order, and they end up in two tables with opposite rules: of
the names suggested for a key the first stays, of those forced on it the last counts.  Both tables
go by keys in camel case, so that keys which are the same there are one key.  All that the tables
tell after any calls, and what they answer to the next suggestion, is told by the calls alone.

* `Suggestions.Distinct` — no key stands twice in a table; `distinct_ofHistory` — every call keeps
  it so.
* `mem_names_suggested`, `mem_names_forced` — the keys in the tables are those of the calls.
* `Suggestions.Remembers`, `ofHistory_remembers` — **what the tables tell after any history.**
-/

namespace ApiTypes

/-- The keys, in camel case, that names are forced on, or that names are suggested for. -/
def Naming.camelKeys [Spelling] (ns : List Naming) (forced : Bool) : List String :=
  (ns.filter fun n => n.forced = forced).map fun n => Name.camelize n.key

lemma Naming.mem_camelKeys [Spelling] {ns : List Naming} {forced : Bool} {k : String} :
    k ∈ camelKeys ns forced ↔ ∃ n ∈ ns, n.forced = forced ∧ Name.camelize n.key = k := by
  simp [camelKeys, and_assoc]

namespace Suggestions

variable {s : Suggestions}

/-! ## Keys of the tables -/

/-- No key stands twice in a table. -/
structure Distinct (s : Suggestions) : Prop where
  suggested : (Members.names s.suggested).Nodup
  forced : (Members.names s.forced).Nodup

lemma distinct_empty : Distinct .empty :=
  ⟨List.nodup_nil, List.nodup_nil⟩

lemma Distinct.record [Spelling] (h : s.Distinct) (n : Naming) : (s.record n).Distinct := by
  rw [Suggestions.record]
  split
  · exact ⟨h.suggested, Members.nodup_put h.forced⟩
  rw [suggest]
  split
  · exact h
  · rename_i hnew
    have hfresh : Name.camelize n.key ∉ Members.names s.suggested := fun hmem =>
      hnew (Members.has_iff.2 hmem)
    refine ⟨?_, h.forced⟩
    simpa [Members.names] using List.Nodup.concat hfresh h.suggested

/-- **No key stands twice**, after any history. -/
lemma distinct_ofHistory [Spelling] (ns : List Naming) : (ofHistory ns).Distinct :=
  List.foldlRecOn ns _ distinct_empty fun _ h n _ => h.record n

/-- The keys with a suggested name are those that names were suggested for. -/
lemma mem_names_suggested [Spelling] {ns : List Naming} {k : String} :
    k ∈ Members.names (ofHistory ns).suggested ↔ k ∈ Naming.camelKeys ns false := by
  have hempty : Members.get? empty.suggested k = none := rfl
  rw [← Members.get?_isSome, ofHistory, get?_suggested_foldl_record, hempty, Option.none_or,
    Option.isSome_map, List.find?_isSome, Naming.mem_camelKeys]
  simp

lemma mem_names_forced [Spelling] {ns : List Naming} {k : String} :
    k ∈ Members.names (ofHistory ns).forced ↔ k ∈ Naming.camelKeys ns true := by
  have hempty : Members.get? empty.forced k = none := rfl
  rw [← Members.get?_isSome, ofHistory, get?_forced_foldl_record, hempty, Option.or_none,
    Option.isSome_map, List.find?_isSome, Naming.mem_camelKeys]
  simp

/-- A table without repeated keys has as many names as there are keys. -/
lemma length_eq_card {names : List (String × String)} {keys : List String}
    (hdistinct : (Members.names names).Nodup) (hkeys : ∀ k, k ∈ Members.names names ↔ k ∈ keys) :
    names.length = keys.toFinset.card := by
  have hsame : (Members.names names).toFinset = keys.toFinset := by
    ext k
    simpa using hkeys k
  rw [← hsame, List.toFinset_card_of_nodup hdistinct, Members.names, List.length_map]

/-- A suggestion is taken when there is none for the key. -/
lemma suggest_eq_true_iff [Spelling] {key name : String} :
    (s.suggest key name).2 = true ↔ Name.camelize key ∉ Members.names s.suggested := by
  rw [← Members.has_iff, suggest]
  split <;> simp [*]

/-! ## Any history -/

/-- **What the tables tell after a history.** -/
structure Remembers [Spelling] (s : Suggestions) (ns : List Naming) : Prop where
  /-- A key takes the last name that was forced on it, or else the first one suggested for it. -/
  name?_eq : ∀ key, s.name? key = (Naming.lastForced ns key).or (Naming.firstSuggested ns key)
  /-- A name is forced on a key when one ever was. -/
  isForced_iff : ∀ key, s.isForced key = true ↔ ∃ n ∈ ns, n.forced = true ∧ n.isFor key = true
  /-- One more suggestion is the first for its key unless there was one before it; forced names do
  not matter to it. -/
  suggest_iff : ∀ key name, (s.suggest key name).2 = true ↔
    ¬ ∃ n ∈ ns, n.forced = false ∧ n.isFor key = true
  /-- Keys count once for all suggestions, and once for all forced names. -/
  size_eq : s.size = (Naming.camelKeys ns false).toFinset.card +
    (Naming.camelKeys ns true).toFinset.card

/-- **The tables remember every history** as they should. -/
theorem ofHistory_remembers [Spelling] (ns : List Naming) : (ofHistory ns).Remembers ns := by
  constructor
  case name?_eq => exact name?_ofHistory ns
  case isForced_iff =>
    intro key
    rw [isForced, Members.has_iff, mem_names_forced, Naming.mem_camelKeys]
    simp [Naming.isFor]
  case suggest_iff =>
    intro key name
    rw [suggest_eq_true_iff, mem_names_suggested, Naming.mem_camelKeys]
    simp [Naming.isFor]
  case size_eq =>
    rw [size, length_eq_card (distinct_ofHistory ns).suggested fun _ => mem_names_suggested,
      length_eq_card (distinct_ofHistory ns).forced fun _ => mem_names_forced]

/-- Three spellings of one key. -/
example :
    let s := ofHistory [⟨"body_1", "createPet", false⟩, ⟨"Body1", "PetDraft", true⟩,
      ⟨"body 1", "storePet", false⟩]
    s.name? "body-1" = some "PetDraft" ∧ s.size = 2 := by
  decide +kernel

end Suggestions

end ApiTypes
