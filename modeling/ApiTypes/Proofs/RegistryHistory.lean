import ApiTypes.Proofs.Registry

/-!
# The registry over any history

Models come and go and change their names in any order, and two tables have to agree all the time:
the models, and the class names in use.  Every operation keeps them in agreement, so they agree
after any history; and what a registry says of its keys, their order and their origins, is told by
the history alone.

* `Registry.Operation`, `Registry.perform`, `Registry.performAll` — a history, and what it makes of
  a registry.
* `Operation.created?`, `Registry.lasting` — the registrations that made an entry, and those whose
  entries last.
* `rename_registry_cases`, `renameIfFree_registry_cases` — what renames make of a registry.
* `Consistent.perform`, `origins_perform` — what one operation keeps.
* `origins_performAll`, `recorded_performAll` — **what holds after any history.**
-/

namespace ApiTypes.Registry

/-! ## Histories -/

/-- An operation on a registry. -/
inductive Operation where
  | register (key : String) (origin : Origin)
  | install (model : ModelDescriptor)
  | rename (key desired : String)
  | renameIfFree (key className : String)
  | remove (key : String)
  /-- An extension of a model gets a value. -/
  | extend (key name : String) (value : Json)

/-- The key whose model an operation is about. -/
def Operation.key : Operation → String
  | .register key _ => key
  | .install model => model.key
  | .rename key _ => key
  | .renameIfFree key _ => key
  | .remove key => key
  | .extend key _ _ => key

/-- The registry after an operation. -/
def perform [Spelling] (r : Registry) : Operation → Registry
  | .register key origin => (r.register key origin).1
  | .install model => r.install model
  | .rename key desired => (r.rename key desired).1
  | .renameIfFree key className => (r.renameIfFree key className).1
  | .remove key => (r.remove key).1
  | .extend key name value =>
    r.update key fun m => { m with extensions := Members.insert m.extensions name value }

/-- The registry after a history. -/
def performAll [Spelling] (r : Registry) (operations : List Operation) : Registry :=
  operations.foldl perform r

/-- The key and the origin of the entry that an operation makes, if it makes one. -/
def Operation.created? (r : Registry) : Operation → Option (String × Origin)
  | .register key origin => if r.contains key then none else some (key, origin)
  | _ => none

/-- The key of the entry that an operation takes out. -/
def Operation.removed? : Operation → Option String
  | .remove key => some key
  | _ => none

/-- The entries of registrations that find their key free and are not taken out later, in the order
of the registrations. -/
def lasting [Spelling] (r : Registry) : List Operation → List (String × Origin)
  | [] => []
  | operation :: later =>
    ((operation.created? r).toList.filter fun e => e.1 ∉ later.filterMap (·.removed?)) ++
      lasting (r.perform operation) later

variable {r : Registry} {operations : List Operation}

/-! ## One operation -/

lemma contains_iff {key : String} : r.contains key = true ↔ key ∈ r.keys :=
  Members.has_iff

/-- A rename leaves a registry as it is, or a model takes a class name that no other model holds. -/
lemma rename_registry_cases [Spelling] (r : Registry) (key desired : String) :
    (r.rename key desired).1 = r ∨ ∃ current new, r.className? key = some current ∧
      new ∉ r.usedNames.filter (· ≠ current) ∧
      (r.rename key desired).1 = r.retitle key current new := by
  obtain ⟨-, heq⟩ | ⟨current, hcurrent, ⟨-, heq⟩ | ⟨-, new, rfl, heq⟩⟩ := r.rename_cases key desired
  · exact Or.inl (by rw [heq])
  · exact Or.inl (by rw [heq])
  · exact Or.inr ⟨current, _, hcurrent, Name.unique_not_mem _ _, by rw [heq]⟩

lemma renameIfFree_registry_cases (r : Registry) (key className : String) :
    (r.renameIfFree key className).1 = r ∨ ∃ current, r.className? key = some current ∧
      className ∉ r.usedNames.filter (· ≠ current) ∧
      (r.renameIfFree key className).1 = r.retitle key current className := by
  obtain ⟨-, heq⟩ | ⟨current, hcurrent, ⟨-, heq⟩ | ⟨-, -, heq⟩ | ⟨-, hfree, heq⟩⟩ :=
    r.renameIfFree_cases key className
  · exact Or.inl (by rw [heq])
  · exact Or.inl (by rw [heq])
  · exact Or.inl (by rw [heq])
  · exact Or.inr ⟨current, hcurrent, fun hmem => hfree (List.mem_of_mem_filter hmem), by rw [heq]⟩

variable [Spelling]

/-- Every operation keeps the models and the class names in use in agreement. -/
lemma Consistent.perform (h : r.Consistent) (operation : Operation) :
    (r.perform operation).Consistent := by
  cases operation with
  | register key origin => exact h.register key origin
  | install model => exact h.install model
  | rename key desired =>
    obtain heq | ⟨current, new, hcurrent, hfree, heq⟩ := r.rename_registry_cases key desired
    · rwa [Registry.perform, heq]
    · rw [Registry.perform, heq]
      exact h.retitle hcurrent hfree
  | renameIfFree key className =>
    obtain heq | ⟨current, hcurrent, hfree, heq⟩ := r.renameIfFree_registry_cases key className
    · rwa [Registry.perform, heq]
    · rw [Registry.perform, heq]
      exact h.retitle hcurrent hfree
  | remove key => exact h.remove key
  | extend key name value =>
    exact h.update (f := fun m => { m with extensions := Members.insert m.extensions name value })
      (fun _ => rfl) (fun _ => rfl)

/-- An operation takes out the entry that it removes, and puts the one that it makes at the end. -/
lemma origins_perform (r : Registry) (operation : Operation) :
    (r.perform operation).view (·.origin) =
      ((r.view (·.origin)).filter fun e => e.1 ∉ operation.removed?) ++
        (operation.created? r).toList := by
  have hkept : ∀ r' : Registry, r'.view (·.origin) = r.view (·.origin) →
      r'.view (·.origin) = ((r.view (·.origin)).filter fun e => e.1 ∉ (none : Option String)) ++
        (none : Option (String × Origin)).toList := by
    intro r' hview
    simp [hview]
  cases operation with
  | register key origin =>
    by_cases hkey : key ∈ r.keys
    · simp [Registry.perform, Operation.created?, Operation.removed?, register_of_mem hkey,
        contains_iff.2 hkey]
    · have hfree : r.contains key = false := by
        rwa [← Bool.not_eq_true, contains_iff]
      simp [Registry.perform, Operation.created?, Operation.removed?, register_of_not_mem hkey,
        hfree, view]
  | install model => exact hkept _ (view_update fun _ => rfl)
  | rename key desired =>
    refine hkept _ ?_
    obtain heq | ⟨current, new, -, -, heq⟩ := r.rename_registry_cases key desired
    · rw [Registry.perform, heq]
    · rw [Registry.perform, heq]
      exact view_retitle fun _ => rfl
  | renameIfFree key className =>
    refine hkept _ ?_
    obtain heq | ⟨current, -, -, heq⟩ := r.renameIfFree_registry_cases key className
    · rw [Registry.perform, heq]
    · rw [Registry.perform, heq]
      exact view_retitle fun _ => rfl
  | remove key =>
    rw [Registry.perform, view, models_remove]
    simp [Operation.created?, Operation.removed?, view, List.filter_map, Function.comp_def, eq_comm]
  | extend key name value => exact hkept _ (view_update fun _ => rfl)

/-! ## Any history -/

lemma Consistent.performAll (h : r.Consistent) (operations : List Operation) :
    (r.performAll operations).Consistent := by
  induction operations generalizing r with
  | nil => exact h
  | cons operation later ih => exact ih (h.perform operation)

/-- **Keys, their order and their origins are told by the history**: what was there and was not
taken out, and then the entries that last. -/
theorem origins_performAll (r : Registry) (operations : List Operation) :
    (r.performAll operations).view (·.origin) =
      ((r.view (·.origin)).filter fun e => e.1 ∉ operations.filterMap (·.removed?)) ++
        r.lasting operations := by
  induction operations generalizing r with
  | nil => simp [performAll, lasting]
  | cons operation later ih =>
    have hrest : ∀ key : String, key ∉ (operation :: later).filterMap (·.removed?) ↔
        key ∉ operation.removed? ∧ key ∉ later.filterMap (·.removed?) := by
      intro key
      cases hremoved : operation.removed? <;> simp [hremoved, eq_comm]
    rw [performAll, List.foldl_cons, ← performAll, ih, origins_perform, List.filter_append,
      List.filter_filter, lasting, List.append_assoc]
    congr 1
    refine List.filter_congr fun e _ => ?_
    simp only [hrest, Bool.decide_and, Bool.and_comm]

/-- **What holds of a registry after a history.** -/
structure Recorded (operations : List Operation) (r : Registry) : Prop where
  /-- A class name is in use just when a model has it. -/
  isTaken_iff : ∀ className, r.isTaken className = true ↔
    ∃ e ∈ r.models, e.2.className = className
  /-- No two models have the same class name. -/
  classNames_nodup : r.classNames.Nodup
  /-- A model is stored once, under its own key. -/
  keys_nodup : r.keys.Nodup
  key_eq : ∀ e ∈ r.models, e.2.key = e.1
  /-- The models are those of the registrations that last, in the order of these, and each has the
  origin that it was registered with. -/
  origins_eq : r.view (·.origin) = empty.lasting operations

/-- **After any history** of the empty registry the models and the class names in use agree, and
models stand in the order of the registrations that made them. -/
theorem recorded_performAll (operations : List Operation) :
    Recorded operations (empty.performAll operations) := by
  have hconsistent := consistent_empty.performAll operations
  refine ⟨fun className => ?_, hconsistent.names_nodup, hconsistent.keys_nodup,
    hconsistent.key_eq, origins_performAll empty operations⟩
  rw [isTaken, List.contains_iff_mem, hconsistent.mem_usedNames, mem_classNames]

end ApiTypes.Registry
