import ApiTypes.Naming.Relabelling
import ApiTypes.Proofs.Retyping

/-!
# Types changed one by one

All types in a descriptor are read in one way and changed in another.  References between models are
counted by the one, and made anew by the other, so both have to come to the same types.  Where
something is told of each type on the way, as of references that lead nowhere, they also have to
come to them in the same order.

* `PropertyDescriptor.visitTypes`, `ModelDescriptor.visitTypes`, `OperationDescriptor.visitTypes` —
  a visit to all types in a descriptor, one after the other, which may change each of them and
  whatever it keeps besides.
* `Appends` — a step that gives a result and tells something of it, behind what was told before.
  Steps are put together by `Appends.bind`, `appends_list` and `appends_option`.
* `PropertyDescriptor.appends_visitTypes` and its like — a visit that changes types gives what
  `mapTypes` does, and tells of them in the order in which `types` reads them.
* `types_retyped` — **reading and changing agree** on every property, model and operation.
* `Registry.relabel_onePass` — names are made anew and lost references told in a single pass.
-/

namespace ApiTypes

/-! ## Visits -/

namespace PropertyDescriptor

variable {σ : Type}

mutual

/-- **A visit to the types in a property**, at every depth. -/
def visitTypes (visit : TypeDescriptor → StateM σ TypeDescriptor) :
    PropertyDescriptor → StateM σ PropertyDescriptor
  | ⟨name, baseName, type, items, required, enumValues, none, extensions⟩ => do
    let type ← visit type
    let items ← items.mapM visit
    return ⟨name, baseName, type, items, required, enumValues, none, extensions⟩
  | ⟨name, baseName, type, items, required, enumValues,
      some ⟨variants, isDisplayable, variantCount⟩, extensions⟩ => do
    let type ← visit type
    let items ← items.mapM visit
    let variants ← visitTypesOfAll visit variants
    return ⟨name, baseName, type, items, required, enumValues,
      some ⟨variants, isDisplayable, variantCount⟩, extensions⟩
termination_by structural p => p

/-- A visit to the types in properties, one property after the other. -/
def visitTypesOfAll (visit : TypeDescriptor → StateM σ TypeDescriptor) :
    List PropertyDescriptor → StateM σ (List PropertyDescriptor)
  | [] => return []
  | p :: ps => do
    let p ← visitTypes visit p
    let ps ← visitTypesOfAll visit ps
    return p :: ps
termination_by structural ps => ps

end

lemma visitTypesOfAll_eq (visit : TypeDescriptor → StateM σ TypeDescriptor)
    (ps : List PropertyDescriptor) : visitTypesOfAll visit ps = ps.mapM (visitTypes visit) := by
  induction ps with
  | nil => rfl
  | cons p ps ih => rw [visitTypesOfAll, ih, List.mapM_cons]

end PropertyDescriptor

section Visits

variable {σ : Type} (visit : TypeDescriptor → StateM σ TypeDescriptor)

/-- A visit to the types in the variants of a union. -/
def UnionOf.visitTypes (u : UnionDescriptor) : StateM σ UnionDescriptor := do
  let variants ← u.variants.mapM (·.visitTypes visit)
  return { u with variants := variants }

/-- The types in a property are its own, that of its items, and those of its union's variants. -/
lemma PropertyDescriptor.visitTypes_eq (p : PropertyDescriptor) :
    p.visitTypes visit = do
      let type ← visit p.type
      let items ← p.items.mapM visit
      let union ← p.union.mapM (UnionOf.visitTypes visit)
      return { p with type := type, items := items, union := union } := by
  obtain ⟨_, _, _, _, _, _, _ | ⟨variants, _, _⟩, _⟩ := p
  · rfl
  · simp [visitTypes, visitTypesOfAll_eq, UnionOf.visitTypes]

/-- **A visit to the types in a model**: the type that it stands for, those of its properties, and
those of the variants of its union. -/
def ModelDescriptor.visitTypes (m : ModelDescriptor) : StateM σ ModelDescriptor := do
  let type ← m.type.mapM visit
  let properties ← m.properties.mapM (·.visitTypes visit)
  let union ← m.union.mapM (UnionOf.visitTypes visit)
  return { m with type := type, properties := properties, union := union }

/-- A visit to the type of a parameter. -/
def ParameterDescriptor.visitType (p : ParameterDescriptor) : StateM σ ParameterDescriptor := do
  let type ← visit p.type
  return { p with type := type }

/-- A visit to the type of a response, if it has one. -/
def ResponseDescriptor.visitType (r : ResponseDescriptor) : StateM σ ResponseDescriptor := do
  let type ← r.type.mapM visit
  return { r with type := type }

/-- **A visit to the types in an operation**: those of its body, its parameters and its
responses. -/
def OperationDescriptor.visitTypes (o : OperationDescriptor) : StateM σ OperationDescriptor := do
  let body ← o.body.mapM (·.visitTypes visit)
  let pathParams ← o.pathParams.mapM (·.visitType visit)
  let queryParams ← o.queryParams.mapM (·.visitType visit)
  let headerParams ← o.headerParams.mapM (·.visitType visit)
  let responses ← o.responses.mapM (·.visitType visit)
  return { o with
    body := body
    pathParams := pathParams
    queryParams := queryParams
    headerParams := headerParams
    responses := responses }

end Visits

/-! ## Telling of what is visited -/

/-- **A step that gives a result and tells something of it**, behind what was told before, whatever
that was. -/
def Appends {ω α : Type} (step : StateM (List ω) α) (result : α) (told : List ω) : Prop :=
  ∀ before, step.run before = (result, before ++ told)

section Appends

variable {ω α β : Type} {step : StateM (List ω) α} {next : α → StateM (List ω) β} {result : α}
  {result' : β} {told told' : List ω}

lemma Appends.of_eq (h : Appends step result told) (heq : told = told') :
    Appends step result told' :=
  heq ▸ h

lemma appends_pure (a : α) : Appends (pure a) a ([] : List ω) := by
  intro before
  rw [List.append_nil]
  rfl

lemma Appends.bind (h : Appends step result told) (hnext : Appends (next result) result' told') :
    Appends (step >>= next) result' (told ++ told') := by
  intro before
  rw [StateT.run_bind, h before, ← List.append_assoc]
  exact hnext (before ++ told)

/-- A step with its result put into something else. -/
lemma Appends.put (h : Appends step result told) (put : α → β) :
    Appends (do let a ← step; return put a) (put result) told :=
  .of_eq (h.bind (appends_pure _)) (List.append_nil told)

variable {visit : α → StateM (List ω) β} {g : α → β} {tell : α → List ω}

lemma appends_list {as : List α} (h : ∀ a ∈ as, Appends (visit a) (g a) (tell a)) :
    Appends (as.mapM visit) (as.map g) (as.flatMap tell) := by
  induction as with
  | nil => exact appends_pure []
  | cons a as ih =>
    have hrest := ih fun a ha => h a (List.mem_cons_of_mem _ ha)
    rw [List.mapM_cons, List.flatMap_cons]
    exact (h a List.mem_cons_self).bind (hrest.put _)

lemma appends_option {o : Option α} (h : ∀ a ∈ o, Appends (visit a) (g a) (tell a)) :
    Appends (o.mapM visit) (o.map g) (o.toList.flatMap tell) := by
  cases o with
  | none => exact appends_pure none
  | some a =>
    rw [Option.mapM_some, map_eq_pure_bind, Option.toList_some, List.flatMap_singleton]
    exact (h a rfl).put some

end Appends

/-! ## What is visited is what is read -/

/-- Changes a type, and tells something of it. -/
def changing {ω : Type} (f : TypeDescriptor → TypeDescriptor) (tell : TypeDescriptor → List ω)
    (t : TypeDescriptor) : StateM (List ω) TypeDescriptor :=
  fun before => (f t, before ++ tell t)

section Changing

variable {ω : Type} (f : TypeDescriptor → TypeDescriptor) (tell : TypeDescriptor → List ω)

lemma appends_changing (t : TypeDescriptor) : Appends (changing f tell t) (f t) (tell t) :=
  fun _ => rfl

lemma appends_changing_option (o : Option TypeDescriptor) :
    Appends (o.mapM (changing f tell)) (o.map f) (o.toList.flatMap tell) :=
  appends_option fun t _ => appends_changing f tell t

lemma UnionOf.appends_visitTypes {u : UnionDescriptor}
    (h : ∀ v ∈ u.variants,
      Appends (v.visitTypes (changing f tell)) (v.mapTypes f) (v.types.flatMap tell)) :
    Appends (UnionOf.visitTypes (changing f tell) u)
      { u with variants := u.variants.map (·.mapTypes f) }
      (u.variants.flatMap fun v => v.types.flatMap tell) :=
  (appends_list h).put _

/-- **Visits to the types in a property** come to those that are read. -/
theorem PropertyDescriptor.appends_visitTypes (p : PropertyDescriptor) :
    Appends (p.visitTypes (changing f tell)) (p.mapTypes f) (p.types.flatMap tell) := by
  induction p using PropertyDescriptor.variantInduction with
  | step p ih =>
    rw [visitTypes_eq, mapTypes_eq, types_eq]
    refine .of_eq ((appends_changing f tell p.type).bind
      ((appends_changing_option f tell p.items).bind
        (.put (appends_option fun u hu => UnionOf.appends_visitTypes f tell (ih u hu)) _))) ?_
    simp [List.flatMap_assoc]

/-- **Visits to the types in a model** come to those that are read. -/
theorem ModelDescriptor.appends_visitTypes (m : ModelDescriptor) :
    Appends (m.visitTypes (changing f tell)) (m.mapTypes f) (m.types.flatMap tell) := by
  refine .of_eq ((appends_changing_option f tell m.type).bind
    ((appends_list fun p _ => p.appends_visitTypes f tell).bind
      (.put (appends_option fun _ _ =>
        UnionOf.appends_visitTypes f tell fun v _ => v.appends_visitTypes f tell) _))) ?_
  rw [types_eq]
  simp [List.flatMap_assoc]

lemma ParameterDescriptor.appends_visitType (p : ParameterDescriptor) :
    Appends (p.visitType (changing f tell)) { p with type := f p.type } (tell p.type) :=
  (appends_changing f tell p.type).put _

lemma ResponseDescriptor.appends_visitType (r : ResponseDescriptor) :
    Appends (r.visitType (changing f tell)) { r with type := r.type.map f }
      (r.type.toList.flatMap tell) :=
  (appends_changing_option f tell r.type).put _

/-- **Visits to the types in an operation** come to those that are read. -/
theorem OperationDescriptor.appends_visitTypes (o : OperationDescriptor) :
    Appends (o.visitTypes (changing f tell)) (o.mapTypes f) (o.types.flatMap tell) := by
  refine .of_eq ((appends_option fun p _ => p.appends_visitTypes f tell).bind
    ((appends_list fun p _ => p.appends_visitType f tell).bind
      ((appends_list fun p _ => p.appends_visitType f tell).bind
        ((appends_list fun p _ => p.appends_visitType f tell).bind
          (.put (appends_list fun r _ => r.appends_visitType f tell) _))))) ?_
  rw [types_eq]
  simp [List.flatMap_assoc]

end Changing

/-- A visit that notes every type notes what is read. -/
lemma Appends.run_nil {α : Type} {step : StateM (List TypeDescriptor) α} {result : α}
    {types : List TypeDescriptor} (h : Appends step result (types.flatMap fun t => [t])) :
    step.run [] = (result, types) := by
  rw [h [], List.nil_append, List.flatMap_singleton']

/-- **Reading and changing agree.**  On every property, with unions inside one another to any depth,
on every model and on every operation, a change of all types comes to the types that are read, in
their order, and turns each into what `f` makes of it.  What comes out is the one descriptor that
has these types, in their order, and in which nothing but types was changed. -/
theorem types_retyped (f : TypeDescriptor → TypeDescriptor) :
    (∀ p : PropertyDescriptor,
      (p.visitTypes (changing f fun t => [t])).run [] = (p.mapTypes f, p.types) ∧
      ∀ q, p.mapTypes f = q ↔ p.Retyped q ∧ q.types = p.types.map f) ∧
    (∀ m : ModelDescriptor,
      (m.visitTypes (changing f fun t => [t])).run [] = (m.mapTypes f, m.types) ∧
      ∀ n, m.mapTypes f = n ↔ m.Retyped n ∧ n.types = m.types.map f) ∧
    ∀ o : OperationDescriptor,
      (o.visitTypes (changing f fun t => [t])).run [] = (o.mapTypes f, o.types) ∧
      ∀ q, o.mapTypes f = q ↔ o.Retyped q ∧ q.types = o.types.map f := by
  refine ⟨fun p => ⟨?_, ?_⟩, fun m => ⟨?_, ?_⟩, fun o => ⟨?_, ?_⟩⟩
  · exact (p.appends_visitTypes f _).run_nil
  · exact p.toldApart.eq_iff (p.retyped_mapTypes f) (p.types_mapTypes f)
  · exact (m.appends_visitTypes f _).run_nil
  · exact m.toldApart.eq_iff (m.retyped_mapTypes f) (m.types_mapTypes f)
  · exact (o.appends_visitTypes f _).run_nil
  · exact o.toldApart.eq_iff (o.retyped_mapTypes f) (o.types_mapTypes f)

/-! ## Relabelling in one pass -/

/-- Makes the name of a type anew, with a warning when it leads to no model. -/
def relabelling (classNames : String → Option String) (location : String) :
    TypeDescriptor → StateM (List Warning) TypeDescriptor :=
  changing (relabelType classNames) fun t =>
    ((t.relabel classNames).2.map (.danglingReference location)).toList

lemma danglingWarnings_eq_flatMap (classNames : String → Option String) (location : String)
    (types : List TypeDescriptor) :
    danglingWarnings classNames location types =
      types.flatMap fun t =>
        ((t.relabel classNames).2.map (.danglingReference location)).toList :=
  List.filterMap_eq_flatMap_toList _ _

lemma ModelDescriptor.appends_relabelling (classNames : String → Option String) (location : String)
    (m : ModelDescriptor) :
    Appends (m.visitTypes (relabelling classNames location)) (m.relabel classNames)
      (danglingWarnings classNames location m.types) := by
  rw [danglingWarnings_eq_flatMap]
  exact m.appends_visitTypes _ _

lemma OperationDescriptor.appends_relabelling (classNames : String → Option String)
    (location : String) (o : OperationDescriptor) :
    Appends (o.visitTypes (relabelling classNames location)) (o.relabel classNames)
      (danglingWarnings classNames location o.types) := by
  rw [danglingWarnings_eq_flatMap]
  exact o.appends_visitTypes _ _

namespace Registry

/-- **All names made anew in one pass**: those in models first, then those in operations, each with
its warnings on the way. -/
def relabelInOnePass (r : Registry) (os : List OperationDescriptor) :
    StateM (List Warning) (List (String × ModelDescriptor) × List OperationDescriptor) := do
  let models ← r.models.mapM fun entry => do
    let m ← entry.2.visitTypes (relabelling r.className? entry.2.className)
    return (entry.1, m)
  let os ← os.mapM fun o => o.visitTypes (relabelling r.className? o.operationId)
  return (models, os)

/-- **One pass does what two do**: it gives the same models and operations, and its warnings are
those that are told of the types as they were before. -/
theorem relabel_onePass (r : Registry) (os : List OperationDescriptor) :
    Appends (r.relabelInOnePass os) (r.relabel.models, os.map (·.relabel r.className?))
      (r.modelWarnings ++ r.operationWarnings os) :=
  .bind (appends_list fun entry _ => .put (entry.2.appends_relabelling r.className? _) _)
    (.put (appends_list fun o _ => o.appends_relabelling r.className? _) _)

end Registry

end ApiTypes
