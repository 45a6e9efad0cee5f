import ApiTypes.Resolution.Resolving
import Mathlib.Data.List.Forall2
import Mathlib.Tactic.Lemma

/-!
# What a step gives

A step of a run ends in an error, or in a value with warnings.  Most facts about a run are about
the values alone, so this file reads a step as a relation between the step and its value.

* `Resolving.Gives` — the step ends with a value, whatever it warns of.
* `gives_bind`, `gives_pure`, … — how the relation runs through a `do` block.
* `gives_mapM`, `map_eq_of_gives_mapM` — and through a list, element by element.
-/

namespace ApiTypes

variable {α β γ : Type}

/-- Of lists that are related element by element, each element on the right has one on the left. -/
lemma exists_left_of_forall₂ {R : α → β → Prop} {xs : List α} {ys : List β} {y : β}
    (h : List.Forall₂ R xs ys) (hy : y ∈ ys) : ∃ x ∈ xs, R x y := by
  induction h with
  | nil => cases hy
  | @cons x y' xs ys' hxy hrest ih =>
    rcases List.mem_cons.1 hy with rfl | hy
    · exact ⟨x, List.mem_cons_self, hxy⟩
    · obtain ⟨x', hx', hrel⟩ := ih hy
      exact ⟨x', List.mem_cons_of_mem _ hx', hrel⟩

namespace Resolving

/-! ## Steps one after another -/

lemma bind_of_error {x : Resolving α} {f : α → Resolving β} {e : ResolveError}
    (hx : x = Except.error e) : x >>= f = (Except.error e : Except _ _) := by
  subst hx
  rfl

lemma bind_of_ok_error {x : Resolving α} {f : α → Resolving β} {a : α} {ws : List Warning}
    {e : ResolveError} (hx : x = Except.ok (a, ws)) (hf : f a = Except.error e) :
    x >>= f = (Except.error e : Except _ _) := by
  subst hx
  show Resolving.bind _ f = _
  simp only [Resolving.bind, hf]
  rfl

lemma bind_of_ok {x : Resolving α} {f : α → Resolving β} {a : α} {b : β} {ws more : List Warning}
    (hx : x = Except.ok (a, ws)) (hf : f a = Except.ok (b, more)) :
    x >>= f = (Except.ok (b, ws ++ more) : Except _ _) := by
  subst hx
  show Resolving.bind _ f = _
  simp only [Resolving.bind, hf]
  rfl

/-- A step with no warnings before it is itself. -/
lemma pure_bind_eq (a : α) (f : α → Resolving β) : (Pure.pure a >>= f) = f a := by
  rcases hf : f a with e | ⟨b, ws⟩
  · exact bind_of_ok_error rfl hf
  · exact bind_of_ok rfl hf

lemma id_map_eq (x : Resolving α) : id <$> x = x := by
  rcases hx : x with e | ⟨a, ws⟩
  · rfl
  · exact (bind_of_ok rfl rfl).trans (congrArg (fun ws => Except.ok (a, ws)) ws.append_nil)

/-- Warnings come in the order of the steps, however these are grouped. -/
lemma bind_assoc_eq (x : Resolving α) (f : α → Resolving β) (g : β → Resolving γ) :
    x >>= f >>= g = x >>= fun a => f a >>= g := by
  rcases hx : x with e | ⟨a, ws⟩
  · rfl
  rcases hf : f a with e | ⟨b, ws'⟩
  · exact (bind_of_error (bind_of_ok_error rfl hf)).trans
      (bind_of_ok_error rfl (bind_of_error hf)).symm
  rcases hg : g b with e | ⟨c, ws''⟩
  · exact (bind_of_ok_error (bind_of_ok rfl hf) hg).trans
      (bind_of_ok_error rfl (bind_of_ok_error hf hg)).symm
  · refine (bind_of_ok (bind_of_ok rfl hf) hg).trans
      (Eq.trans ?_ (bind_of_ok rfl (bind_of_ok hf hg)).symm)
    exact congrArg (fun ws => Except.ok (c, ws)) (List.append_assoc ..)

instance : LawfulMonad Resolving :=
  LawfulMonad.mk' Resolving id_map_eq pure_bind_eq bind_assoc_eq

/-! ## Values -/

/-- The step ends with the value `a`, whatever it warns of. -/
def Gives (x : Resolving α) (a : α) : Prop :=
  ∃ warnings, x = Except.ok (a, warnings)

lemma Gives.unique {x : Resolving α} {a b : α} (h : Gives x a) (h' : Gives x b) : a = b := by
  obtain ⟨ws, rfl⟩ := h
  obtain ⟨ws', h'⟩ := h'
  injection h' with h'
  exact congrArg Prod.fst h'

lemma gives_pure {a b : α} : Gives (Pure.pure a) b ↔ a = b := by
  constructor
  · rintro ⟨ws, h⟩
    injection h with h
    exact congrArg Prod.fst h
  · rintro rfl
    exact ⟨[], rfl⟩

lemma gives_bind {x : Resolving α} {f : α → Resolving β} {b : β} :
    Gives (x >>= f) b ↔ ∃ a, Gives x a ∧ Gives (f a) b := by
  constructor
  · rintro ⟨ws, h⟩
    rcases hx : x with e | ⟨a, wa⟩
    · rw [bind_of_error hx] at h
      cases h
    rcases hf : f a with e | ⟨b', wb⟩
    · rw [bind_of_ok_error hx hf] at h
      cases h
    rw [bind_of_ok hx hf] at h
    injection h with h
    obtain ⟨rfl, -⟩ := Prod.mk.inj h
    exact ⟨a, ⟨wa, rfl⟩, wb, hf⟩
  · rintro ⟨a, ⟨wa, hx⟩, wb, hf⟩
    exact ⟨wa ++ wb, bind_of_ok hx hf⟩

@[simp] lemma not_gives_failWith {e : ResolveError} {a : α} : ¬ Gives (failWith e) a := by
  rintro ⟨ws, h⟩
  cases h

/-- Telling the place of an error changes no value. -/
lemma gives_located {place : String} {x : Except ResolveError α} {a : α} :
    Gives (located place x) a ↔ x = Except.ok a := by
  constructor
  · rintro ⟨ws, h⟩
    rcases x with e | v
    · cases h
    · injection h with h
      rw [(Prod.mk.inj h).1]
  · rintro rfl
    exact ⟨[], rfl⟩

/-- A step whose value is looked at has one. -/
lemma exists_gives_of {x : Resolving α} {view : α → β} {seen : β}
    (h : (Except.toOption x).map (fun result => view result.1) = some seen) :
    ∃ a, Gives x a ∧ view a = seen := by
  rcases x with e | ⟨a, warnings⟩
  · cases h
  · exact ⟨a, ⟨warnings, rfl⟩, Option.some.inj h⟩

/-- Steps along a list give the list of what each step gives. -/
lemma gives_mapM {f : α → Resolving β} {xs : List α} {ys : List β} :
    Gives (xs.mapM f) ys ↔ List.Forall₂ (fun x y => Gives (f x) y) xs ys := by
  induction xs generalizing ys with
  | nil => rw [List.mapM_nil, gives_pure, List.forall₂_nil_left_iff, eq_comm]
  | cons x xs ih =>
    rw [List.mapM_cons, gives_bind, List.forall₂_cons_left_iff]
    simp only [gives_bind, gives_pure, ih]
    constructor
    · rintro ⟨y, hy, ys', hys, rfl⟩
      exact ⟨y, ys', hy, hys, rfl⟩
    · rintro ⟨y, ys', hy, hys, rfl⟩
      exact ⟨y, hy, ys', hys, rfl⟩

/-- Every value comes from some element of the list. -/
lemma exists_of_gives_mapM {f : α → Resolving β} {xs : List α} {ys : List β} {y : β}
    (h : Gives (xs.mapM f) ys) (hy : y ∈ ys) : ∃ x ∈ xs, Gives (f x) y :=
  exists_left_of_forall₂ (gives_mapM.1 h) hy

/-- Every element of the list has its value. -/
lemma exists_given_of_mem {f : α → Resolving β} {xs : List α} {ys : List β} {x : α}
    (h : Gives (xs.mapM f) ys) (hx : x ∈ xs) : ∃ y ∈ ys, Gives (f x) y :=
  exists_left_of_forall₂ (gives_mapM.1 h).flip hx

/-- What can be told of each value from its element alone can be told of the whole list. -/
lemma map_eq_of_gives_mapM {f : α → Resolving β} {xs : List α} {ys : List β} {v : β → γ}
    {w : α → γ} (h : Gives (xs.mapM f) ys) (hf : ∀ x y, Gives (f x) y → v y = w x) :
    ys.map v = xs.map w := by
  induction gives_mapM.1 h with
  | nil => rfl
  | cons hxy hrest ih => rw [List.map_cons, List.map_cons, hf _ _ hxy, ih (gives_mapM.2 hrest)]

end Resolving

end ApiTypes
