import ApiTypes.Proofs.RegistryHistory
import ApiTypes.Text.Latin

/-!
# What an operation leaves alone

An operation on a registry is about one key.  Here it is said what the operation makes of that
key's model, that all other models stay as they are, and when nothing changes at all.

A rename gives the old class name back before it looks for the new one.  So the names that a new
class name has to keep clear of are those of the other models, and a model can be given back the
number that it has.

* `Operation.Idle`, `Consistent.perform_of_idle` — an operation that has nothing to do does nothing.
* `get?_perform_of_ne` — the models of other keys.
* `Registry.Retitled` — one model has another class name, and that is all;
  `Consistent.rename_retitled`, `Consistent.renameIfFree_retitled` — the two ways to get there.
* `Registry.Framed`, `framed_performAll` — **what holds of every operation after any history.**
-/

namespace ApiTypes.Registry

variable {r r' : Registry} {key className current : String} {m : ModelDescriptor}

/-! ## Nothing to do -/

/-- An operation that has nothing to do: its key is registered already, is not known, or has the
class name that it is to have; or another model holds a class name that is only taken when free. -/
def Operation.Idle [Spelling] (r : Registry) : Operation → Prop
  | .register key _ => key ∈ r.keys
  | .install model => model.key ∉ r.keys
  | .rename key desired => key ∉ r.keys ∨ r.className? key = some (Name.className desired)
  | .renameIfFree key className =>
    key ∉ r.keys ∨ r.className? key = some className ∨ className ∈ r.namesBeside key
  | .remove key => key ∉ r.keys
  | .extend key _ _ => key ∉ r.keys

lemma update_of_not_mem {f : ModelDescriptor → ModelDescriptor} (h : key ∉ r.keys) :
    r.update key f = r := by
  have hself : ∀ e ∈ r.models, (e.1, if e.1 = key then f e.2 else e.2) = id e := by
    intro e he
    have hne : e.1 ≠ key := fun heq => h (heq ▸ Members.mem_names_of_mem he)
    rw [if_neg hne, id]
  rw [update, List.map_congr_left hself, List.map_id]

lemma mem_usedNames_of_mem_namesBeside (h : r.Consistent)
    (hbeside : className ∈ r.namesBeside key) : className ∈ r.usedNames := by
  obtain ⟨e, he, -, heq⟩ := mem_namesBeside.1 hbeside
  exact (h.mem_usedNames _).2 (mem_classNames.2 ⟨e, he, heq⟩)

/-- **An operation that has nothing to do does nothing.** -/
lemma Consistent.perform_of_idle [Spelling] (h : r.Consistent) {operation : Operation}
    (hidle : operation.Idle r) : r.perform operation = r := by
  cases operation with
  | register key origin => exact register_of_mem hidle
  | install model =>
    rw [Registry.perform, Registry.install]
    exact update_of_not_mem hidle
  | rename key desired =>
    obtain ⟨-, heq⟩ | ⟨current, hcurrent, ⟨-, heq⟩ | ⟨hne, -⟩⟩ := r.rename_cases key desired
    · rw [Registry.perform, heq]
    · rw [Registry.perform, heq]
    · rcases hidle with hkey | hheld
      · rw [className?_eq_none.2 hkey] at hcurrent
        cases hcurrent
      · exact absurd (Option.some.inj (hheld.symm.trans hcurrent)) hne
  | renameIfFree key className =>
    obtain ⟨-, heq⟩ | ⟨current, hcurrent, ⟨-, heq⟩ | ⟨-, -, heq⟩ | ⟨hne, hfree, -⟩⟩ :=
      r.renameIfFree_cases key className
    · rw [Registry.perform, heq]
    · rw [Registry.perform, heq]
    · rw [Registry.perform, heq]
    · rcases hidle with hkey | hheld | hbeside
      · rw [className?_eq_none.2 hkey] at hcurrent
        cases hcurrent
      · exact absurd (Option.some.inj (hcurrent.symm.trans hheld)) hne
      · exact absurd (mem_usedNames_of_mem_namesBeside h hbeside) hfree
  | remove key => exact remove_of_not_mem hidle
  | extend key name value =>
    rw [Registry.perform]
    exact update_of_not_mem hidle

/-! ## The models of other keys -/

/-- **No operation touches the model of another key.** -/
lemma get?_perform_of_ne [Spelling] {operation : Operation} (hne : key ≠ operation.key) :
    (r.perform operation).get? key = r.get? key := by
  cases operation with
  | register other origin =>
    by_cases hmem : other ∈ r.keys
    · rw [Registry.perform, register_of_mem hmem]
    · have hother : other ≠ key := Ne.symm hne
      rw [Registry.perform, register_of_not_mem hmem, get?, Members.get?_append,
        Members.get?_cons, if_neg hother]
      exact Option.or_none
  | install model =>
    rw [Registry.perform, get?_install]
    exact if_neg hne
  | rename other desired =>
    obtain heq | ⟨current, new, -, -, heq⟩ := r.rename_registry_cases other desired
    · rw [Registry.perform, heq]
    · rw [Registry.perform, heq, get?_retitle]
      exact if_neg hne
  | renameIfFree other className =>
    obtain heq | ⟨current, -, -, heq⟩ := r.renameIfFree_registry_cases other className
    · rw [Registry.perform, heq]
    · rw [Registry.perform, heq, get?_retitle]
      exact if_neg hne
  | remove other =>
    rw [Registry.perform, get?_remove]
    exact if_neg hne
  | extend other name value =>
    rw [Registry.perform, get?_update]
    exact if_neg hne

/-! ## Another class name -/

/-- The registry `r'` is `r`, but that the model of a key has a class name. -/
structure Retitled (r : Registry) (key className : String) (r' : Registry) : Prop where
  /-- Nothing else changes in the models. -/
  models_eq : r'.models =
    r.models.map fun e => (e.1, if e.1 = key then e.2.titled className else e.2)
  /-- The class name that the model had before is free, unless it is the same. -/
  isTaken_iff : ∀ name, r'.isTaken name = true ↔
    name = className ∨ (r.isTaken name = true ∧ r.className? key ≠ some name)

lemma isTaken_iff_mem : r.isTaken className = true ↔ className ∈ r.usedNames :=
  List.contains_iff_mem

lemma retitle_retitled (hcurrent : r.className? key = some current) :
    Retitled r key className (r.retitle key current className) := by
  refine ⟨models_retitle, fun name => ?_⟩
  rw [isTaken_iff_mem, isTaken_iff_mem, usedNames_retitle, hcurrent, List.mem_cons, List.mem_filter,
    decide_eq_true_eq, ne_eq, ne_eq, Option.some.injEq, eq_comm (a := current)]

/-- A model has the class name that it has. -/
lemma Consistent.retitled_self (h : r.Consistent) (hcurrent : r.className? key = some className) :
    Retitled r key className r := by
  obtain ⟨m, hm, rfl⟩ := className?_eq_some.1 hcurrent
  rw [h.get?_eq_some] at hm
  have hself : ∀ e ∈ r.models,
      (e.1, if e.1 = key then e.2.titled m.className else e.2) = id e := by
    intro e he
    split
    · rename_i hkey
      rw [h.eq_of_key_eq he hm hkey]
      rfl
    · rfl
  constructor
  · rw [List.map_congr_left hself, List.map_id]
  · intro name
    have htaken : m.className ∈ r.usedNames :=
      (h.mem_usedNames _).2 (mem_classNames.2 ⟨_, hm, rfl⟩)
    rw [isTaken_iff_mem, hcurrent]
    constructor
    · intro hname
      by_cases heq : name = m.className
      · exact Or.inl heq
      · exact Or.inr ⟨hname, fun hsome => heq (Option.some.inj hsome).symm⟩
    · rintro (rfl | ⟨hname, -⟩)
      · exact htaken
      · exact hname

/-- The models and the names in use are told by the model's new class name. -/
lemma Retitled.eq {s : Registry} (h : Retitled r key className r')
    (h' : Retitled r key className s) :
    r'.models = s.models ∧ ∀ name, r'.isTaken name = s.isTaken name := by
  refine ⟨h.models_eq.trans h'.models_eq.symm, fun name => ?_⟩
  rw [Bool.eq_iff_iff, h.isTaken_iff, h'.isTaken_iff]

/-- **A rename** gives a model the first class name for the desired one that no other model holds,
and changes nothing else. -/
lemma Consistent.rename_retitled [Spelling] (h : r.Consistent) (hkey : key ∈ r.keys)
    (desired : String) :
    ∃ className, (r.rename key desired).2 = some className ∧
      Name.FirstFree (· ∈ r.namesBeside key) (Name.className desired) className ∧
      Retitled r key className (r.rename key desired).1 := by
  obtain ⟨hnone, -⟩ | ⟨current, hcurrent, ⟨rfl, heq⟩ | ⟨-, new, rfl, heq⟩⟩ :=
    r.rename_cases key desired
  · exact absurd hkey (className?_eq_none.1 hnone)
  · rw [heq]
    obtain ⟨m, hm, hname⟩ := className?_eq_some.1 hcurrent
    refine ⟨_, rfl, .plain ?_, h.retitled_self hcurrent⟩
    rw [← hname]
    exact h.not_mem_namesBeside (h.get?_eq_some.1 hm)
  · rw [heq]
    obtain ⟨m, hm, rfl⟩ := className?_eq_some.1 hcurrent
    refine ⟨_, rfl, ?_, retitle_retitled hcurrent⟩
    rw [Name.unique_congr (h.mem_usedNames_filter (h.get?_eq_some.1 hm))]
    exact Name.unique_firstFree _ _

/-- A model that is given back the class name that it has is as it was. -/
lemma Consistent.rename_back [Spelling] (h : r.Consistent) {desired : String}
    (hback : (r.rename key desired).2 = r.className? key) :
    (r.rename key desired).1.models = r.models ∧
      ∀ name, (r.rename key desired).1.isTaken name = r.isTaken name := by
  by_cases hkey : key ∈ r.keys
  · obtain ⟨className, hnew, -, hretitled⟩ := h.rename_retitled hkey desired
    exact hretitled.eq (h.retitled_self (hback.symm.trans hnew))
  · have hidle : Operation.Idle r (.rename key desired) := Or.inl hkey
    have hsame : (r.rename key desired).1 = r := h.perform_of_idle hidle
    rw [hsame]
    exact ⟨rfl, fun _ => rfl⟩

/-- **A rename to a free name** takes place just when no other model holds the name. -/
lemma Consistent.renameIfFree_retitled (h : r.Consistent) (hkey : key ∈ r.keys)
    (className : String) :
    ((r.renameIfFree key className).2 = true ↔ className ∉ r.namesBeside key) ∧
      (className ∉ r.namesBeside key →
        Retitled r key className (r.renameIfFree key className).1) := by
  obtain ⟨hnone, -⟩ | ⟨current, hcurrent, ⟨rfl, heq⟩ | ⟨hne, htaken, heq⟩ | ⟨hne, hfree, heq⟩⟩ :=
    r.renameIfFree_cases key className
  · exact absurd hkey (className?_eq_none.1 hnone)
  · obtain ⟨m, hm, rfl⟩ := className?_eq_some.1 hcurrent
    rw [heq]
    exact ⟨iff_of_true rfl (h.not_mem_namesBeside (h.get?_eq_some.1 hm)),
      fun _ => h.retitled_self hcurrent⟩
  · obtain ⟨m, hm, rfl⟩ := className?_eq_some.1 hcurrent
    have hbeside : className ∈ r.namesBeside key :=
      (h.mem_usedNames_filter (h.get?_eq_some.1 hm) className).1
        (List.mem_filter.2 ⟨htaken, by simpa using Ne.symm hne⟩)
    rw [heq]
    exact ⟨iff_of_false Bool.false_ne_true (not_not.2 hbeside), fun hfree => absurd hbeside hfree⟩
  · have hbeside : className ∉ r.namesBeside key := fun hmem =>
      hfree (mem_usedNames_of_mem_namesBeside h hmem)
    rw [heq]
    exact ⟨iff_of_true rfl hbeside, fun _ => retitle_retitled hcurrent⟩

/-! ## After any history -/

/-- **What the operations change, and what they leave alone.** -/
structure Framed [Spelling] (r : Registry) : Prop where
  /-- No operation touches the model of another key. -/
  get?_of_ne : ∀ (operation : Operation) (key : String), key ≠ operation.key →
    (r.perform operation).get? key = r.get? key
  /-- An operation that has nothing to do leaves the registry as it is. -/
  eq_of_idle : ∀ operation : Operation, operation.Idle r → r.perform operation = r
  /-- A rename gives a model the first class name for the desired one that no other model holds. -/
  rename : ∀ key desired : String, key ∈ r.keys → ∃ className,
    (r.rename key desired).2 = some className ∧
      Name.FirstFree (· ∈ r.namesBeside key) (Name.className desired) className ∧
      Retitled r key className (r.rename key desired).1
  /-- If that is the class name that the model has, models and names in use are as they were. -/
  rename_back : ∀ key desired : String, (r.rename key desired).2 = r.className? key →
    (r.rename key desired).1.models = r.models ∧
      ∀ name, (r.rename key desired).1.isTaken name = r.isTaken name
  /-- A model takes a free name just when no other model holds it. -/
  renameIfFree : ∀ key className : String, key ∈ r.keys →
    ((r.renameIfFree key className).2 = true ↔ className ∉ r.namesBeside key) ∧
      (className ∉ r.namesBeside key →
        Retitled r key className (r.renameIfFree key className).1)
  /-- New content changes no key, no class name and no origin, and no name becomes free or taken. -/
  install_titles : ∀ model : ModelDescriptor, (r.install model).titles = r.titles ∧
    (r.install model).usedNames = r.usedNames

/-- **After any history** an operation changes the model that it is about, as it is to, and nothing
else. -/
theorem framed_performAll [Spelling] (operations : List Operation) :
    (empty.performAll operations).Framed := by
  have h := consistent_empty.performAll operations
  exact ⟨fun _ _ => get?_perform_of_ne, fun _ => h.perform_of_idle,
    fun _ desired hkey => h.rename_retitled hkey desired, fun _ _ => h.rename_back,
    fun _ className hkey => h.renameIfFree_retitled hkey className,
    fun _ => ⟨view_update fun _ => rfl, rfl⟩⟩

/-- A model keeps its number when another model still holds the name without it. -/
example : ((empty.performAll [.register "pet" .declared, .register "Pet" .declared]).rename
    "Pet" "pet").2 = some "Pet2" := by
  decide +kernel

end ApiTypes.Registry
