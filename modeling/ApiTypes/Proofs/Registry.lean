import ApiTypes.Naming.Registry
import ApiTypes.Proofs.ClassName
import ApiTypes.Proofs.Members

/-!
# The registry keeps class names apart

What holds of every registry that a run comes across, and what each operation does to the model of
one key.

* `Registry.Consistent` — keys and class names are each held once, and the names in use are the
  class names.
* `Registry.LegalNames` — all class names are legal.
* `Registry.view` — what a function sees of the models.
* `Registry.retitle` — one model gets another class name; what `rename` and `renameIfFree` do, by
  `rename_cases` and `renameIfFree_cases`.
* `Consistent.register`, `Consistent.changeModels`, `Consistent.retitle`, `Consistent.remove` —
  every operation keeps a registry consistent.
* `Registry.nameFor` — the class name that a model takes for a wanted one.
* `get?_update`, `get?_retitle`, `get?_remove`, … — the models of other keys stay as they are.
* `Consistent.byClassName_eq` — no model of a consistent registry is lost when models go by class
  names.
-/

namespace ApiTypes

lemma ModelFlags.mem_set {flags : ModelFlags} {flag g : ModelFlag} :
    g ∈ ModelFlags.set flags flag ↔ g = flag ∨ g ∈ flags := by
  have hall : g ∈ ModelFlag.all := by cases g <;> simp [ModelFlag.all]
  simp [ModelFlags.set, hall]

/-- A model under a class name. -/
def ModelDescriptor.titled (className : String) (m : ModelDescriptor) : ModelDescriptor :=
  { m with className := className }

@[simp] lemma ModelDescriptor.className_titled (className : String) (m : ModelDescriptor) :
    (m.titled className).className = className :=
  rfl

namespace Registry

variable {r : Registry} {key name current : String} {m : ModelDescriptor}

/-- The class names of the models, in order. -/
def classNames (r : Registry) : List String :=
  r.models.map (·.2.className)

/-- The registry holds each key and each class name once, each model under its own key, and the
names in use are the class names. -/
structure Consistent (r : Registry) : Prop where
  keys_nodup : r.keys.Nodup
  key_eq : ∀ e ∈ r.models, e.2.key = e.1
  names_nodup : r.classNames.Nodup
  mem_usedNames : ∀ name, name ∈ r.usedNames ↔ name ∈ r.classNames

/-- All class names in the registry are legal. -/
def LegalNames (r : Registry) : Prop :=
  ∀ e ∈ r.models, Name.Legal e.2.className

/-- What can be seen of the models, by their keys and in order. -/
def view {α : Type} (v : ModelDescriptor → α) (r : Registry) : List (String × α) :=
  r.models.map fun e => (e.1, v e.2)

lemma consistent_empty : Consistent empty :=
  ⟨List.nodup_nil, fun _ he => (List.not_mem_nil he).elim, List.nodup_nil, fun _ => Iff.rfl⟩

/-! ## Looking up -/

lemma mem_classNames : name ∈ r.classNames ↔ ∃ e ∈ r.models, e.2.className = name := by
  simp [classNames]

lemma mem_keys_iff : key ∈ r.keys ↔ ∃ m, r.get? key = some m := by
  rw [← Option.isSome_iff_exists]
  exact Members.get?_isSome.symm

lemma Consistent.get?_eq_some (h : r.Consistent) : r.get? key = some m ↔ (key, m) ∈ r.models :=
  ⟨Members.mem_of_get?, Members.get?_of_mem h.keys_nodup⟩

/-- A key is that of one model. -/
lemma Consistent.eq_of_key_eq (h : r.Consistent) {e e' : String × ModelDescriptor}
    (he : e ∈ r.models) (he' : e' ∈ r.models) (heq : e.1 = e'.1) : e = e' :=
  List.inj_on_of_nodup_map h.keys_nodup he he' heq

/-- A class name is that of one model. -/
lemma Consistent.eq_of_className_eq (h : r.Consistent) {e e' : String × ModelDescriptor}
    (he : e ∈ r.models) (he' : e' ∈ r.models) (heq : e.2.className = e'.2.className) : e = e' :=
  List.inj_on_of_nodup_map h.names_nodup he he' heq

lemma className?_eq_some : r.className? key = some name ↔
    ∃ m, r.get? key = some m ∧ m.className = name := by
  simp [className?]

lemma className?_eq_none : r.className? key = none ↔ key ∉ r.keys := by
  rw [className?, Option.map_eq_none_iff]
  exact Members.get?_eq_none

lemma names_view {α : Type} (v : ModelDescriptor → α) : Members.names (r.view v) = r.keys := by
  simp [Members.names, view, keys]

lemma get?_view {α : Type} (v : ModelDescriptor → α) (r : Registry) (k : String) :
    Members.get? (r.view v) k = (r.get? k).map v :=
  Members.get?_map (fun _ m => v m) r.models k

lemma mem_view {α : Type} (v : ModelDescriptor → α) (h : (key, m) ∈ r.models) :
    (key, v m) ∈ r.view v :=
  List.mem_map_of_mem (f := fun e : String × ModelDescriptor => (e.1, v e.2)) h

/-- What stays with a model from its registration on: its class name and its origin. -/
def titles (r : Registry) : List (String × String × Origin) :=
  r.view fun m => (m.className, m.origin)

lemma className?_of_titles {r r' : Registry} (h : r'.titles = r.titles) :
    r'.className? = r.className? := by
  have hview : ∀ (r : Registry) (k : String),
      r.className? k = (Members.get? r.titles k).map (·.1) := fun r k => by
    rw [titles, get?_view, Option.map_map]
    rfl
  funext k
  rw [hview, hview, h]

lemma legalNames_of_titles {r r' : Registry} (h : r'.titles = r.titles) (hr : r.LegalNames) :
    r'.LegalNames := by
  intro e he
  have hmem : (e.1, e.2.className, e.2.origin) ∈ r'.titles := mem_view _ he
  rw [h] at hmem
  obtain ⟨e', he', heq⟩ := List.mem_map.1 hmem
  rw [← (Prod.mk.inj (Prod.mk.inj heq).2).1]
  exact hr e' he'

/-! ## Changing models in place -/

/-- The registry with each model changed by a function of its key. -/
def changeModels (r : Registry) (f : String → ModelDescriptor → ModelDescriptor) : Registry :=
  { r with models := r.models.map fun e => (e.1, f e.1 e.2) }

lemma keys_changeModels (f : String → ModelDescriptor → ModelDescriptor) :
    (r.changeModels f).keys = r.keys :=
  Members.names_map f r.models

lemma get?_changeModels (f : String → ModelDescriptor → ModelDescriptor) (k : String) :
    (r.changeModels f).get? k = (r.get? k).map (f k) :=
  Members.get?_map f r.models k

lemma view_changeModels {α : Type} {v : ModelDescriptor → α}
    {f : String → ModelDescriptor → ModelDescriptor} (hf : ∀ k m, v (f k m) = v m) :
    (r.changeModels f).view v = r.view v := by
  simp [view, changeModels, hf]

/-- A change that leaves key and class name of every model keeps a registry consistent. -/
lemma Consistent.changeModels (h : r.Consistent) {f : String → ModelDescriptor → ModelDescriptor}
    (hkey : ∀ e ∈ r.models, (f e.1 e.2).key = e.2.key)
    (hname : ∀ e ∈ r.models, (f e.1 e.2).className = e.2.className) :
    (r.changeModels f).Consistent := by
  have hnames : (r.changeModels f).classNames = r.classNames := by
    simp only [classNames, Registry.changeModels, List.map_map]
    exact List.map_congr_left hname
  refine ⟨?_, ?_, ?_, ?_⟩
  · rw [keys_changeModels]
    exact h.keys_nodup
  · intro e he
    obtain ⟨e', he', rfl⟩ := List.mem_map.1 he
    rw [hkey e' he', h.key_eq e' he']
  · rw [hnames]
    exact h.names_nodup
  · intro name
    rw [hnames]
    exact h.mem_usedNames name

lemma update_eq (r : Registry) (key : String) (f : ModelDescriptor → ModelDescriptor) :
    r.update key f = r.changeModels fun k m => if k = key then f m else m :=
  rfl

lemma mapModels_eq (r : Registry) (f : ModelDescriptor → ModelDescriptor) :
    r.mapModels f = r.changeModels fun _ m => f m :=
  rfl

lemma get?_update (f : ModelDescriptor → ModelDescriptor) (k : String) :
    (r.update key f).get? k = if k = key then (r.get? k).map f else r.get? k := by
  rw [update_eq, get?_changeModels]
  split <;> simp_all

lemma Consistent.update (h : r.Consistent) {f : ModelDescriptor → ModelDescriptor}
    (hkey : ∀ m, (f m).key = m.key) (hname : ∀ m, (f m).className = m.className) :
    (r.update key f).Consistent := by
  rw [update_eq]
  refine h.changeModels ?_ ?_ <;> intro e _ <;> split <;> simp [hkey, hname]

lemma view_update {α : Type} {v : ModelDescriptor → α} {f : ModelDescriptor → ModelDescriptor}
    (hf : ∀ m, v (f m) = v m) : (r.update key f).view v = r.view v := by
  rw [update_eq]
  refine view_changeModels fun k m => ?_
  split
  · exact hf m
  · rfl

lemma size_update (f : ModelDescriptor → ModelDescriptor) : (r.update key f).size = r.size := by
  simp [size, update_eq, changeModels]

lemma LegalNames.update (h : r.LegalNames) {f : ModelDescriptor → ModelDescriptor}
    (hname : ∀ m, (f m).className = m.className) : (r.update key f).LegalNames := by
  intro e he
  obtain ⟨e', he', rfl⟩ := List.mem_map.1 he
  dsimp only
  split
  · rw [hname]
    exact h e' he'
  · exact h e' he'

lemma get?_install (model : ModelDescriptor) (k : String) :
    (r.install model).get? k =
      if k = model.key then
        (r.get? k).map fun m => { model with className := m.className, origin := m.origin }
      else r.get? k :=
  get?_update _ k

lemma Consistent.install (h : r.Consistent) (model : ModelDescriptor) :
    (r.install model).Consistent := by
  rw [Registry.install, update_eq]
  refine h.changeModels ?_ ?_
  · intro e he
    split
    · rename_i hk
      exact hk.symm.trans (h.key_eq e he).symm
    · rfl
  · intro e _
    split <;> rfl

/-! ## Registering -/

lemma register_of_mem [Spelling] {origin : Origin} (h : key ∈ r.keys) :
    (r.register key origin).1 = r := by
  rw [register]
  split
  · rfl
  · rename_i hnone
    exact absurd h (className?_eq_none.1 hnone)

lemma register_of_not_mem [Spelling] {origin : Origin} (h : key ∉ r.keys) :
    (r.register key origin).1 =
      { models := r.models ++ [(key,
          { key := key, className := Name.unique (Name.className key) r.usedNames
            origin := origin })]
        usedNames := Name.unique (Name.className key) r.usedNames :: r.usedNames } := by
  rw [register, className?_eq_none.2 h]
  rfl

lemma mem_keys_register [Spelling] {k : String} {origin : Origin} :
    k ∈ (r.register key origin).1.keys ↔ k ∈ r.keys ∨ k = key := by
  by_cases hk : key ∈ r.keys
  · rw [register_of_mem hk]
    exact ⟨Or.inl, fun h => h.elim id fun heq => heq ▸ hk⟩
  · rw [register_of_not_mem hk]
    simp [keys, Members.names]

lemma Consistent.register [Spelling] (h : r.Consistent) (key : String) (origin : Origin) :
    (r.register key origin).1.Consistent := by
  by_cases hk : key ∈ r.keys
  · rwa [register_of_mem hk]
  rw [register_of_not_mem hk]
  have hfresh := Name.unique_not_mem (Name.className key) r.usedNames
  rw [h.mem_usedNames] at hfresh
  refine ⟨?_, ?_, ?_, ?_⟩
  · simp only [Registry.keys, Members.names, List.map_append, List.map_cons, List.map_nil]
    exact List.concat_eq_append ▸ h.keys_nodup.concat hk
  · intro e he
    rcases List.mem_append.1 he with he | he
    · exact h.key_eq e he
    · rw [List.mem_singleton.1 he]
  · simp only [classNames, List.map_append, List.map_cons, List.map_nil]
    exact List.concat_eq_append ▸ h.names_nodup.concat hfresh
  · intro name
    simp only [classNames, List.map_append, List.map_cons, List.map_nil, List.mem_append,
      List.mem_cons, List.not_mem_nil, or_false, h.mem_usedNames]
    exact or_comm

lemma LegalNames.register [Spelling] (h : r.LegalNames) (key : String) (origin : Origin) :
    (r.register key origin).1.LegalNames := by
  by_cases hk : key ∈ r.keys
  · rwa [register_of_mem hk]
  · rw [register_of_not_mem hk]
    intro e he
    rcases List.mem_append.1 he with he | he
    · exact h e he
    · rw [List.mem_singleton.1 he]
      exact (Name.className_legal key).unique _

/-! ## Renaming -/

/-- The registry after the model of a key gave a class name back and took another. -/
def retitle (r : Registry) (key current className : String) : Registry :=
  (r.release current).assign key className

lemma models_retitle : (r.retitle key current name).models =
    r.models.map fun e => (e.1, if e.1 = key then e.2.titled name else e.2) :=
  rfl

lemma usedNames_retitle : (r.retitle key current name).usedNames =
    name :: r.usedNames.filter (· ≠ current) :=
  rfl

lemma keys_retitle : (r.retitle key current name).keys = r.keys := by
  rw [keys, models_retitle]
  exact Members.names_map (fun k m => if k = key then m.titled name else m) r.models

lemma get?_retitle (k : String) :
    (r.retitle key current name).get? k =
      if k = key then (r.get? k).map (·.titled name) else r.get? k := by
  rw [get?, models_retitle, Members.get?_map
    (fun (k : String) (m : ModelDescriptor) => if k = key then m.titled name else m)]
  by_cases h : k = key
  · simp only [h, if_true]
    rfl
  · simp only [h, if_false, Option.map_id']
    rfl

lemma view_retitle {α : Type} {v : ModelDescriptor → α} (hv : ∀ m, v (m.titled name) = v m) :
    (r.retitle key current name).view v = r.view v :=
  view_update hv

lemma size_retitle : (r.retitle key current name).size = r.size := by
  rw [size, models_retitle, List.length_map, size]

lemma LegalNames.retitle (h : r.LegalNames) (hname : Name.Legal name) :
    (r.retitle key current name).LegalNames := by
  intro e he
  rw [models_retitle] at he
  obtain ⟨e', he', rfl⟩ := List.mem_map.1 he
  dsimp only
  split
  · exact hname
  · exact h e' he'

section

variable (h : r.Consistent) (hm : (key, m) ∈ r.models)
  (hfree : name ∉ r.usedNames.filter (· ≠ m.className))
include h hm

lemma className_ne_of_key_ne {e : String × ModelDescriptor} (he : e ∈ r.models) (hk : e.1 ≠ key) :
    e.2.className ≠ m.className :=
  fun heq => hk (congrArg Prod.fst (h.eq_of_className_eq he hm heq))

lemma mem_usedNames_retitle (n : String) : n ∈ (r.retitle key m.className name).usedNames ↔
    n ∈ (r.retitle key m.className name).classNames := by
  rw [mem_classNames, usedNames_retitle, models_retitle]
  simp only [List.mem_cons, List.mem_filter, h.mem_usedNames, mem_classNames, decide_eq_true_eq]
  constructor
  · rintro (rfl | ⟨⟨e, he, rfl⟩, hne⟩)
    · exact ⟨_, List.mem_map.2 ⟨(key, m), hm, rfl⟩, by simp⟩
    · refine ⟨_, List.mem_map.2 ⟨e, he, rfl⟩, ?_⟩
      have hk : e.1 ≠ key := fun hk => hne (congrArg (·.2.className) (h.eq_of_key_eq he hm hk))
      simp [hk]
  · rintro ⟨e, he, rfl⟩
    obtain ⟨e', he', rfl⟩ := List.mem_map.1 he
    by_cases hk : e'.1 = key
    · simp [hk]
    · exact Or.inr ⟨⟨e', he', by simp [hk]⟩,
        by simpa [hk] using className_ne_of_key_ne h hm he' hk⟩

include hfree

/-- The new class name is that of no other model. -/
lemma className_ne_of_free {e : String × ModelDescriptor} (he : e ∈ r.models) (hk : e.1 ≠ key) :
    e.2.className ≠ name := by
  rintro rfl
  refine hfree (List.mem_filter.2 ⟨(h.mem_usedNames _).2 (mem_classNames.2 ⟨e, he, rfl⟩), ?_⟩)
  simpa using className_ne_of_key_ne h hm he hk

lemma classNames_retitle_nodup : (r.retitle key m.className name).classNames.Nodup := by
  rw [classNames, models_retitle, List.map_map]
  refine List.Nodup.map_on ?_ (List.Nodup.of_map _ h.keys_nodup)
  intro e he e' he' heq
  simp only [Function.comp_apply] at heq
  by_cases hk : e.1 = key
  · by_cases hk' : e'.1 = key
    · exact h.eq_of_key_eq he he' (hk.trans hk'.symm)
    · rw [if_pos hk, if_neg hk'] at heq
      exact (className_ne_of_free h hm hfree he' hk' heq.symm).elim
  · by_cases hk' : e'.1 = key
    · rw [if_neg hk, if_pos hk'] at heq
      exact (className_ne_of_free h hm hfree he hk heq).elim
    · rw [if_neg hk, if_neg hk'] at heq
      exact h.eq_of_className_eq he he' heq

end

/-- The class names of all models but that of a key. -/
def namesBeside (r : Registry) (key : String) : List String :=
  (r.models.filter fun e => e.1 ≠ key).map (·.2.className)

/-- The class name that a model takes for a wanted one: with a number when another model holds that
one. -/
def nameFor (r : Registry) (key wanted : String) : String :=
  Name.unique wanted (r.namesBeside key)

lemma mem_namesBeside : name ∈ r.namesBeside key ↔
    ∃ e ∈ r.models, e.1 ≠ key ∧ e.2.className = name := by
  simp [namesBeside, and_assoc]

/-- Beside a model's own class name those of the other models are in use. -/
lemma Consistent.mem_usedNames_filter (h : r.Consistent) (hm : (key, m) ∈ r.models)
    (name : String) : name ∈ r.usedNames.filter (· ≠ m.className) ↔ name ∈ r.namesBeside key := by
  rw [List.mem_filter, h.mem_usedNames, mem_classNames, mem_namesBeside, decide_eq_true_eq]
  constructor
  · rintro ⟨⟨e, he, rfl⟩, hne⟩
    exact ⟨e, he, fun hk => hne (congrArg (·.2.className) (h.eq_of_key_eq he hm hk)), rfl⟩
  · rintro ⟨e, he, hk, rfl⟩
    exact ⟨⟨e, he, rfl⟩, className_ne_of_key_ne h hm he hk⟩

/-- No other model holds the class name of a model. -/
lemma Consistent.not_mem_namesBeside (h : r.Consistent) (hm : (key, m) ∈ r.models) :
    m.className ∉ r.namesBeside key := by
  intro hmem
  obtain ⟨e, he, hk, heq⟩ := mem_namesBeside.1 hmem
  exact className_ne_of_key_ne h hm he hk heq

/-- A class name that a model has is the one that it takes for it. -/
lemma Consistent.nameFor_className (h : r.Consistent) (hm : (key, m) ∈ r.models) :
    r.nameFor key m.className = m.className := by
  rw [nameFor, Name.unique, if_neg (h.not_mem_namesBeside hm)]

/-- A class name that no other model holds can be taken. -/
lemma Consistent.retitle (h : r.Consistent) (hcurrent : r.className? key = some current)
    (hfree : name ∉ r.usedNames.filter (· ≠ current)) :
    (r.retitle key current name).Consistent := by
  obtain ⟨m, hm, rfl⟩ := className?_eq_some.1 hcurrent
  rw [h.get?_eq_some] at hm
  refine ⟨?_, ?_, classNames_retitle_nodup h hm hfree, mem_usedNames_retitle h hm⟩
  · rw [keys_retitle]
    exact h.keys_nodup
  · intro e he
    rw [models_retitle] at he
    obtain ⟨e', he', rfl⟩ := List.mem_map.1 he
    rw [← h.key_eq e' he']
    dsimp only
    split <;> rfl

/-- What `rename` can do: nothing, or give the model a unique name made from the desired one. -/
lemma rename_cases [Spelling] (r : Registry) (key desired : String) :
    (r.className? key = none ∧ r.rename key desired = (r, none)) ∨
    ∃ current, r.className? key = some current ∧
      ((Name.className desired = current ∧ r.rename key desired = (r, some current)) ∨
        Name.className desired ≠ current ∧ ∃ new,
          new = Name.unique (Name.className desired) (r.usedNames.filter (· ≠ current)) ∧
          r.rename key desired = (r.retitle key current new, some new)) := by
  rw [rename]
  cases hc : r.className? key with
  | none => exact Or.inl ⟨rfl, rfl⟩
  | some current =>
    refine Or.inr ⟨current, rfl, ?_⟩
    by_cases hb : Name.className desired = current
    · exact Or.inl ⟨hb, by simp [hb]⟩
    · exact Or.inr ⟨hb, _, rfl, by simp only [hb, if_false]; rfl⟩

/-- What `renameIfFree` can do: nothing, or give the model the name, which no other model holds. -/
lemma renameIfFree_cases (r : Registry) (key className : String) :
    (r.className? key = none ∧ r.renameIfFree key className = (r, false)) ∨
    ∃ current, r.className? key = some current ∧
      ((current = className ∧ r.renameIfFree key className = (r, true)) ∨
        (current ≠ className ∧ className ∈ r.usedNames ∧
          r.renameIfFree key className = (r, false)) ∨
        (current ≠ className ∧ className ∉ r.usedNames ∧
          r.renameIfFree key className = (r.retitle key current className, true))) := by
  rw [renameIfFree]
  cases hc : r.className? key with
  | none => exact Or.inl ⟨rfl, rfl⟩
  | some current =>
    refine Or.inr ⟨current, rfl, ?_⟩
    by_cases hb : current = className
    · exact Or.inl ⟨hb, by simp [hb]⟩
    by_cases ht : className ∈ r.usedNames
    · exact Or.inr (Or.inl ⟨hb, ht, by simp [hb, isTaken, ht]⟩)
    · exact Or.inr (Or.inr ⟨hb, ht, by simp [hb, isTaken, ht]; rfl⟩)

/-! ## Taking out -/

lemma remove_of_get? (hm : r.get? key = some m) :
    (r.remove key).1 =
      { models := r.models.filter fun e => e.1 ≠ key
        usedNames := r.usedNames.filter (· ≠ m.className) } := by
  rw [remove, hm]
  rfl

lemma remove_of_not_mem (h : key ∉ r.keys) : (r.remove key).1 = r := by
  rw [remove, show r.get? key = none from Members.get?_eq_none.2 h]

lemma models_remove : (r.remove key).1.models = r.models.filter fun e => e.1 ≠ key := by
  cases hm : r.get? key with
  | some m => rw [remove_of_get? hm]
  | none =>
    have hk : key ∉ r.keys := Members.get?_eq_none.1 hm
    rw [remove_of_not_mem hk, eq_comm, List.filter_eq_self]
    intro e he
    have hne : e.1 ≠ key := fun h => hk (h ▸ Members.mem_names_of_mem he)
    simpa using hne

lemma keys_remove : (r.remove key).1.keys = r.keys.filter (· ≠ key) := by
  rw [keys, models_remove, Members.names_filter_ne]
  rfl

lemma view_remove_sublist {α : Type} (v : ModelDescriptor → α) :
    ((r.remove key).1.view v).Sublist (r.view v) := by
  rw [view, models_remove]
  exact List.filter_sublist.map _

lemma LegalNames.remove (h : r.LegalNames) (key : String) : (r.remove key).1.LegalNames := by
  intro e he
  rw [models_remove] at he
  exact h e (List.mem_of_mem_filter he)

lemma get?_remove (k : String) :
    (r.remove key).1.get? k = if k = key then none else r.get? k := by
  rw [get?, models_remove]
  exact Members.get?_filter_ne r.models key k

lemma Consistent.remove (h : r.Consistent) (key : String) : (r.remove key).1.Consistent := by
  cases hm : r.get? key with
  | none => rwa [remove_of_not_mem (Members.get?_eq_none.1 hm)]
  | some m =>
    refine ⟨keys_remove ▸ h.keys_nodup.filter _, ?_, ?_, ?_⟩
    · rw [models_remove]
      exact fun e he => h.key_eq e (List.mem_of_mem_filter he)
    · rw [classNames, models_remove]
      exact h.names_nodup.sublist (List.filter_sublist.map _)
    · rw [h.get?_eq_some] at hm
      intro name
      rw [remove_of_get? (h.get?_eq_some.2 hm)]
      simp only [List.mem_filter, h.mem_usedNames, mem_classNames, decide_eq_true_eq]
      constructor
      · rintro ⟨⟨e, he, rfl⟩, hne⟩
        refine ⟨e, ⟨he, fun hk => hne ?_⟩, rfl⟩
        exact congrArg (·.2.className) (h.eq_of_key_eq he hm hk)
      · rintro ⟨e, ⟨he, hk⟩, rfl⟩
        refine ⟨⟨e, he, rfl⟩, fun heq => hk ?_⟩
        exact congrArg Prod.fst (h.eq_of_className_eq he hm heq)

/-- Taking out a model that is there makes a consistent registry smaller by one. -/
lemma Consistent.size_remove (h : r.Consistent) (hk : key ∈ r.keys) :
    (r.remove key).1.size + 1 = r.size := by
  have hkeys : ∀ r : Registry, r.size = r.keys.length := fun r => by
    simp [size, keys, Members.names]
  have herase : r.keys.filter (· ≠ key) = r.keys.erase key := by
    rw [h.keys_nodup.erase_eq_filter]
    exact List.filter_congr fun k _ => by simp [bne, beq_eq_decide]
  rw [hkeys, hkeys, keys_remove, herase, List.length_erase_of_mem hk]
  have := List.length_pos_of_mem hk
  omega

/-! ## Models by class name -/

/-- By class names, a consistent registry keeps all its models, in order. -/
lemma Consistent.byClassName_eq (h : r.Consistent) :
    r.byClassName = r.models.map fun e => (e.2.className, e.2) := by
  have hnames : Members.names (r.models.map fun e => (e.2.className, e.2)) = r.classNames := by
    simp [Members.names, classNames]
  have hnd : (Members.names ([] : List (String × ModelDescriptor)) ++
      Members.names (r.models.map fun e => (e.2.className, e.2))).Nodup :=
    hnames.symm ▸ h.names_nodup
  have hput := Members.foldl_put hnd
  rwa [List.foldl_map] at hput

end Registry

end ApiTypes
