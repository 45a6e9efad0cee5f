import ApiTypes.Proofs.Leaves
import ApiTypes.Proofs.ModelAccounting
import ApiTypes.Proofs.TakenNames
import ApiTypes.Proofs.Warnings
import ApiTypes.Text.Latin

/-!
# What is lost is told

When a model is left out, types that lead to it become the type of any value.  Each such type has a
warning of its own, and so has each model that was left out for the want of a name.  Lifted unions
are left out without a warning: nothing that is left leads to them.

* `warnings_foldl_carryOut`, `warnings_settle` — what settling names warns of: one warning for
  each model that it leaves out for the want of a name.
* `TypeDescriptor.lost?` — where a type leads to that is not in the result;
  `TypeDescriptor.Degrades` — what becomes of a type.
* `ApiDocument.LossesTold` — the warnings of a run, and the types before and after it, side by side.
* `losses_told` — **every loss is told, and nothing else.**
-/

namespace ApiTypes

open Resolving

namespace Settlement

variable {s : Settlement} {key : String} {m : ModelDescriptor}

/-! ## Warnings while names are settled -/

lemma warnings_rename [Spelling] (s : Settlement) (key desired : String) :
    (s.rename key desired).warnings = s.warnings := by
  obtain ⟨-, heq⟩ | ⟨current, -, ⟨-, heq⟩ | ⟨new, -, heq⟩⟩ := s.rename_cases key desired
  · rw [heq]
  · rw [heq]
  · rw [heq]
    split <;> rfl

lemma warnings_carryOut [Spelling] (hm : s.registry.get? key = some m) (ruling : Ruling) :
    (s.carryOut key ruling).warnings =
      s.warnings ++ if ruling = .drop then [.droppedSyntheticModel m.className] else [] := by
  cases ruling with
  | keep => simp [carryOut]
  | rename desired => simp [carryOut, warnings_rename]
  | renameBody desired => simp [carryOut, markBody, warnings_rename]
  | drop => simp [carryOut, dropUnnamed, className?_of_get? hm]

/-- Along models of different keys there is one warning for each that is left out. -/
lemma warnings_foldl_carryOut [Spelling] (ruling : String × ModelDescriptor → Ruling)
    {es : List (String × ModelDescriptor)} (hnd : (es.map (·.1)).Nodup)
    (hes : ∀ e ∈ es, s.registry.get? e.1 = some e.2) :
    (es.foldl (fun s e => s.carryOut e.1 (ruling e)) s).warnings = s.warnings ++
      (es.filter fun e => ruling e = .drop).map fun e => .droppedSyntheticModel e.2.className := by
  induction es generalizing s with
  | nil => simp
  | cons e es ih =>
    obtain ⟨hfresh, hnd⟩ := List.nodup_cons.1 hnd
    obtain ⟨he, hes⟩ := List.forall_mem_cons.1 hes
    -- the turn of the first model leaves the others as they were
    have hrest : ∀ e' ∈ es, (s.carryOut e.1 (ruling e)).registry.get? e'.1 = some e'.2 := by
      intro e' he'
      have hne : e'.1 ≠ e.1 := fun heq => hfresh (List.mem_map.2 ⟨e', he', heq⟩)
      rw [(carryOut_actsOnKey ruling).frame s e e'.1 hne, hes e' he']
    rw [List.foldl_cons, ih hnd hrest, warnings_carryOut he, List.append_assoc, List.filter_cons]
    by_cases hdrop : ruling e = .drop <;> simp [hdrop]

lemma warnings_dropUnreferenced (hs : s.registry.Consistent) (fromOperations : List String) :
    (s.dropUnreferenced fromOperations).warnings = s.warnings :=
  dropUnreferenced_induction (P := fun t => t.warnings = s.warnings)
    (fun _ _ _ _ h _ _ => h) hs rfl

variable [Spelling]

lemma warnings_dropMarker (s : Settlement) (key : String) :
    (s.dropMarker key).warnings = s.warnings := by
  obtain heq | ⟨current, rest, -, -, ⟨-, heq⟩ | ⟨-, heq⟩⟩ := s.dropMarker_cases key
  · rw [heq]
  · exact heq ▸ rfl
  · exact heq ▸ rfl

lemma warnings_dropMarkers (s : Settlement) : s.dropMarkers.warnings = s.warnings := by
  suffices hfold : ∀ (es : List (String × ModelDescriptor)) (t : Settlement),
      (es.foldl (fun s e => if e.2.origin = .composed then s.dropMarker e.1 else s) t).warnings =
        t.warnings from hfold _ s
  intro es
  induction es with
  | nil => exact fun _ => rfl
  | cons e es ih =>
    intro t
    rw [List.foldl_cons, ih]
    split
    · exact warnings_dropMarker t e.1
    · rfl

end Settlement

open Settlement in
/-- **Settling warns of the models that it leaves out for the want of a name**, in the order of the
registry and under the class names that they had. -/
theorem warnings_settle [Spelling] {r : Registry} (hr : r.Consistent) (suggestions : Suggestions)
    (operations : List OperationDescriptor) :
    (r.settle suggestions operations).warnings =
      (r.models.filter fun e => suggestions.ruling e.1 e.2.origin e.2.isUnion = .drop).map fun e =>
        .droppedSyntheticModel e.2.className := by
  have hnamed := applySuggestions_moves (s := ⟨r, 0, 0, []⟩) hr suggestions
  show (dropMarkers _).warnings = _
  rw [warnings_dropMarkers, warnings_dropUnreferenced (hnamed.consistent hr)]
  exact warnings_foldl_carryOut (s := ⟨r, 0, 0, []⟩)
    (fun e => suggestions.ruling e.1 e.2.origin e.2.isUnion) hr.keys_nodup
    fun e he => hr.get?_eq_some.2 he

/-! ## Types that lose what they lead to -/

/-- The key that a type leads to, when no model of a result has it. -/
def TypeDescriptor.lost? (api : TypedApi) (t : TypeDescriptor) : Option String :=
  t.leaf.reference.filter fun key => key ∉ api.models.map (·.2.key)

/-- The warnings for those of some types that lead to nothing. -/
def TypedApi.losses (api : TypedApi) (location : String) (types : List TypeDescriptor) :
    List Warning :=
  types.filterMap fun t => (t.lost? api).map (.danglingReference location)

/-- **What becomes of a type.**  The containers stay.  The leaf becomes the type of any value when
it is lost, and otherwise it stays, too, but for the class name of the model that it leads to. -/
structure TypeDescriptor.Degrades (api : TypedApi) (t t' : TypeDescriptor) : Prop where
  nesting_eq : t'.nesting = t.nesting
  leaf_of_lost : ∀ key, t.lost? api = some key → t'.leaf = .dynamic
  leaf_of_kept : t.lost? api = none → (t.leaf.reference = none ∧ t'.leaf = t.leaf) ∨
    ∃ e ∈ api.models, t.leaf.reference = some e.2.key ∧ t'.leaf = { t.leaf with name := e.1 }

/-- The types in the model of a key. -/
def ResolvedDocument.typesOf (parts : ResolvedDocument) (key : String) : List TypeDescriptor :=
  (parts.registry.get? key).elim [] (·.types)

/-- The warnings for all types that lead to nothing: those of the models of a result, under their
class names there, and then those of the operations. -/
def ResolvedDocument.losses (parts : ResolvedDocument) (api : TypedApi) : List Warning :=
  api.models.flatMap (fun e => api.losses e.1 (parts.typesOf e.2.key)) ++
    parts.operations.flatMap fun o => api.losses o.operationId o.types

/-- Whether a warning is about a type that leads to nothing. -/
def Warning.isDangling : Warning → Bool
  | .danglingReference .. => true
  | _ => false

/-- **The losses of a run and what it tells of them.** -/
structure ApiDocument.LossesTold [Spelling] (document : ApiDocument) (config : Config)
    (parts : ResolvedDocument) (api : TypedApi) (statistics : Statistics) : Prop where
  /-- Models and operations come in the order of the document. -/
  keys_sublist : (api.models.map (·.2.key)).Sublist (Members.names document.models)
  operations_eq : parts.operations.map (fun o => (o.operationId, o.path, o.httpMethod)) =
    document.operations.map fun o => (operationIdOf config o, o.path, methodOf o)
  /-- There is one warning for each type that leads to nothing, in this order. -/
  dangling_eq : statistics.warnings.filter (·.isDangling) = parts.losses api
  /-- They led to unions from bodies and responses, and each of these has a warning, too. -/
  unnamed : ∀ location key, .danglingReference location key ∈ statistics.warnings →
    key ∉ api.models.map (·.2.key) ∧ ∃ spec registered, (key, spec) ∈ document.models ∧
      (spec.origin = .requestBody ∨ spec.origin = .inlineResponse) ∧
      (∃ kind variants, spec.schema.shape = .union kind variants) ∧
      document.registeredName? key = some registered ∧
      statistics.warnings.count (.droppedSyntheticModel registered) = 1
  models_degrade : ∀ e ∈ api.models,
    List.Forall₂ (TypeDescriptor.Degrades api) (parts.typesOf e.2.key) e.2.types
  operations_degrade : ∃ os, os.Perm api.operations ∧
    List.Forall₂ (fun o o' => o'.operationId = o.operationId ∧
      List.Forall₂ (TypeDescriptor.Degrades api) o.types o'.types) parts.operations os

lemma isDangling_of_mem_losses {parts : ResolvedDocument} {api : TypedApi} {w : Warning}
    (h : w ∈ parts.losses api) : w.isDangling = true := by
  have hlosses : ∀ location types, w ∈ api.losses location types → w.isDangling = true := by
    intro location types hw
    obtain ⟨t, -, hw⟩ := List.mem_filterMap.1 hw
    obtain ⟨key, -, rfl⟩ := Option.map_eq_some_iff.1 hw
    rfl
  rcases List.mem_append.1 h with h | h
  · obtain ⟨e, -, h⟩ := List.mem_flatMap.1 h
    exact hlosses _ _ h
  · obtain ⟨o, -, h⟩ := List.mem_flatMap.1 h
    exact hlosses _ _ h

namespace ApiDocument.Run

variable [Spelling] {document : ApiDocument} {config : Config} {parts : ResolvedDocument}
  {api : TypedApi} {statistics : Statistics} {key : String} {m : ModelDescriptor}
  {t : TypeDescriptor}

/-! ## The warnings of a run -/

/-- A type leads to nothing when its leaf has a key without a class name. -/
lemma relabel_snd_eq_lost? (run : document.Run config parts api statistics) (t : TypeDescriptor) :
    (t.relabel (parts.settled document config).registry.className?).2 = t.lost? api := by
  rw [TypeDescriptor.relabel_snd, TypeDescriptor.lost?]
  congr 1
  funext key
  rw [Bool.eq_iff_iff, Option.isNone_iff_eq_none, decide_eq_true_eq, ← run.className?_isSome_iff,
    Option.isSome_iff_ne_none, ne_eq, not_not]

lemma danglingWarnings_eq (run : document.Run config parts api statistics) (location : String)
    (types : List TypeDescriptor) :
    danglingWarnings (parts.settled document config).registry.className? location types =
      api.losses location types := by
  simp only [danglingWarnings, TypedApi.losses, run.relabel_snd_eq_lost?]

/-- Settling changes no types. -/
lemma types_settled (run : document.Run config parts api statistics) {left : ModelDescriptor}
    (hleft : (parts.settled document config).registry.get? key = some left) :
    parts.typesOf key = left.types := by
  obtain ⟨m, hm⟩ := run.settled_moves.exists_get? hleft
  rw [ResolvedDocument.typesOf, hm]
  exact (run.settled_moves.view_eq stable_types run.parts_consistent hm hleft).symm

lemma modelWarnings_eq (run : document.Run config parts api statistics) :
    (parts.settled document config).registry.modelWarnings =
      api.models.flatMap fun e => api.losses e.1 (parts.typesOf e.2.key) := by
  rw [Registry.modelWarnings, run.models_eq, List.flatMap_map]
  refine List.flatMap_congr fun e he => ?_
  have hleft := run.settled_consistent.get?_eq_some.2 he
  have hkey : (e.2.finished (parts.settled document config).registry.className?).key = e.1 :=
    run.settled_consistent.key_eq _ he
  dsimp only
  rw [run.danglingWarnings_eq, hkey, run.types_settled hleft]

lemma operationWarnings_eq (run : document.Run config parts api statistics) :
    (parts.settled document config).registry.operationWarnings parts.operations =
      parts.operations.flatMap fun o => api.losses o.operationId o.types := by
  rw [Registry.operationWarnings]
  exact List.flatMap_congr fun o _ => run.danglingWarnings_eq _ _

/-- A run tells first what its parts warn of, which is of no loss, and then what settling and
relabelling do. -/
lemma exists_warnings (run : document.Run config parts api statistics)
    (h : document.resolve config = .ok (api, statistics)) :
    ∃ warnings, (∀ w ∈ warnings, w.isLoss = false) ∧ statistics.warnings =
      warnings ++ ((parts.settled document config).warnings ++ parts.losses api) := by
  obtain ⟨warnings, hparts⟩ := run.parts_given
  refine ⟨warnings, resolveParts_quiet document config parts warnings hparts, ?_⟩
  have hfinish : document.finish config parts = Except.ok (_, _) := rfl
  rw [resolve, bind_of_ok (f := document.finish config) hparts hfinish] at h
  injection h with h
  rw [← (Prod.mk.inj h).2, ResolvedDocument.losses, ← run.modelWarnings_eq,
    ← run.operationWarnings_eq]
  simp [Statistics.withWarnings, ResolvedDocument.settled]

lemma ruling_eq_drop_iff (run : document.Run config parts api statistics)
    (hm : parts.registry.get? key = some m) :
    (Scope.suggestions ⟨parts.registry, config⟩ document.operations).ruling key m.origin
      m.isUnion = .drop ↔ document.Unnamed config key := by
  obtain ⟨hmoves, hturn, heq⟩ := Settlement.get?_applySuggestions
    (s := ⟨parts.registry, 0, 0, []⟩) run.parts_consistent
    (Scope.suggestions ⟨parts.registry, config⟩ document.operations) hm
  rw [← run.get?_named_eq_none_iff hm, ResolvedDocument.named, heq,
    Settlement.get?_carryOut_eq_none_iff (hmoves.consistent run.parts_consistent) hturn]

/-- A model that is left out for the want of a name has one warning. -/
lemma count_warnings_settled (run : document.Run config parts api statistics)
    (hm : parts.registry.get? key = some m) (hunnamed : document.Unnamed config key) :
    (parts.settled document config).warnings.count (.droppedSyntheticModel m.className) = 1 := by
  have hinjective : Function.Injective Warning.droppedSyntheticModel :=
    fun _ _ => Warning.droppedSyntheticModel.inj
  have hdrop := (run.ruling_eq_drop_iff hm).2 hunnamed
  rw [ResolvedDocument.settled, warnings_settle run.parts_consistent]
  refine List.count_eq_one_of_mem ?_ (List.mem_map.2 ⟨(key, m), ?_, rfl⟩)
  · have hnodup := run.parts_consistent.names_nodup.map hinjective
    rw [Registry.classNames, List.map_map] at hnodup
    exact hnodup.sublist (List.filter_sublist.map _)
  · exact List.mem_filter.2 ⟨Members.mem_of_get? hm, decide_eq_true hdrop⟩

/-! ## Types before and after -/

/-- What a type leads to in vain was left out for the want of a name, unless it is one of the lifted
unions that nothing needs. -/
lemma unnamed_of_lost (run : document.Run config parts api statistics)
    (ht : t.Current parts.registry.className?) (hlost : t.lost? api = some key)
    (hneeded : key ∉ (parts.named document config).missing (parts.needed document config)) :
    key ∉ api.models.map (·.2.key) ∧ document.Unnamed config key := by
  obtain ⟨href, hgone⟩ := Option.filter_eq_some_iff.1 hlost
  have hgone : key ∉ api.models.map (·.2.key) := of_decide_eq_true hgone
  obtain ⟨p, format, synthesized, hleaf⟩ | ⟨key', className, hname, hleaf⟩ := ht.leaf_cases
  · rw [hleaf] at href
    cases href
  · rw [hleaf] at href
    obtain rfl := Option.some.inj href
    obtain ⟨m, hm, -⟩ := Registry.className?_eq_some.1 hname
    obtain ⟨spec, hspec, -⟩ := run.exists_spec hm
    have hkey := Members.mem_names.2 ⟨spec, hspec⟩
    exact ⟨hgone, ((run.not_mem_result_iff hkey).1 hgone).resolve_right hneeded⟩

/-- **What a model or an operation leads to in vain** was left out for the want of a name. -/
lemma unnamed_of_dangling (run : document.Run config parts api statistics)
    {location : String} (hmem : .danglingReference location key ∈ parts.losses api) :
    key ∉ api.models.map (·.2.key) ∧ document.Unnamed config key := by
  have hlosses : ∀ {location' types}, Warning.danglingReference location key ∈
      api.losses location' types → ∃ t ∈ types, t.lost? api = some key := by
    intro location' types h
    obtain ⟨t, ht, h⟩ := List.mem_filterMap.1 h
    obtain ⟨key', hlost, heq⟩ := Option.map_eq_some_iff.1 h
    obtain ⟨-, rfl⟩ := Warning.danglingReference.inj heq
    exact ⟨t, ht, hlost⟩
  have hreferences : ∀ {t : TypeDescriptor}, t.Current parts.registry.className? →
      t.lost? api = some key → key ∈ t.references := by
    intro t ht hlost
    rw [ht.references_eq, Option.mem_toList]
    exact (Option.filter_eq_some_iff.1 hlost).1
  rcases List.mem_append.1 hmem with hmem | hmem
  · obtain ⟨e, he, hmem⟩ := List.mem_flatMap.1 hmem
    obtain ⟨t, ht, hlost⟩ := hlosses hmem
    cases hm : parts.registry.get? e.2.key with
    | none =>
      rw [ResolvedDocument.typesOf, hm] at ht
      cases ht
    | some m =>
      rw [ResolvedDocument.typesOf, hm] at ht
      have hmodel := Members.mem_of_get? hm
      have hcurrent := run.models_current _ hmodel t ht
      refine run.unnamed_of_lost hcurrent hlost fun hmissing => ?_
      exact (run.not_mem_references_of_missing hmissing).1 _ hmodel (List.mem_map_of_mem he)
        (List.mem_flatMap.2 ⟨t, ht, hreferences hcurrent hlost⟩)
  · obtain ⟨o, ho, hmem⟩ := List.mem_flatMap.1 hmem
    obtain ⟨t, ht, hlost⟩ := hlosses hmem
    have hcurrent := run.operations_current o ho t ht
    refine run.unnamed_of_lost hcurrent hlost fun hmissing => ?_
    exact (run.not_mem_references_of_missing hmissing).2 o ho
      (List.mem_flatMap.2 ⟨t, ht, hreferences hcurrent hlost⟩)

lemma degrades (run : document.Run config parts api statistics)
    (ht : t.Current parts.registry.className?) :
    t.Degrades api (relabelType (parts.settled document config).registry.className? t) := by
  have hlost := run.relabel_snd_eq_lost? t
  rw [TypeDescriptor.relabel_snd] at hlost
  refine ⟨TypeDescriptor.nesting_relabelType t, ?_, ?_⟩
  all_goals
    rw [TypeDescriptor.leaf_relabelType, ← hlost]
    obtain ⟨p, format, synthesized, hleaf⟩ | ⟨key, className, -, hleaf⟩ := ht.leaf_cases
  · rw [hleaf]
    rintro key ⟨⟩
  · rw [hleaf, TypeDescriptor.relabelType_model]
    intro key' hkey
    obtain ⟨hkey, hnone⟩ := Option.filter_eq_some_iff.1 hkey
    obtain rfl := Option.some.inj hkey
    rw [Option.isNone_iff_eq_none.1 hnone]
    rfl
  · rw [hleaf]
    exact fun _ => Or.inl ⟨rfl, rfl⟩
  · rw [hleaf, TypeDescriptor.relabelType_model]
    intro hkept
    cases hname : (parts.settled document config).registry.className? key with
    | none => simp [TypeDescriptor.model, Option.filter, hname] at hkept
    | some name =>
      obtain ⟨e, he, rfl, rfl⟩ := run.className?_settled_eq_some_iff.1 hname
      exact Or.inr ⟨e, he, rfl, rfl⟩

lemma forall₂_degrades (run : document.Run config parts api statistics)
    {types : List TypeDescriptor} (htypes : ∀ t ∈ types, t.Current parts.registry.className?) :
    List.Forall₂ (TypeDescriptor.Degrades api) types
      (types.map (relabelType (parts.settled document config).registry.className?)) :=
  List.forall₂_map_right_iff.2 (List.forall₂_same.2 fun t ht => run.degrades (htypes t ht))

/-! ## The whole -/

lemma filter_warnings (run : document.Run config parts api statistics)
    (h : document.resolve config = .ok (api, statistics)) :
    statistics.warnings.filter (·.isDangling) = parts.losses api := by
  obtain ⟨warnings, hquiet, hwarnings⟩ := run.exists_warnings h
  have hfirst : ∀ w ∈ warnings, ¬ w.isDangling = true := by
    intro w hw hdangling
    have hloss := hquiet w hw
    cases w <;> cases hdangling
    cases hloss
  have hsecond : ∀ w ∈ (parts.settled document config).warnings, ¬ w.isDangling = true := by
    rw [ResolvedDocument.settled, warnings_settle run.parts_consistent]
    exact List.forall_mem_map.2 fun _ _ => by simp [Warning.isDangling]
  rw [hwarnings, List.filter_append, List.filter_append, List.filter_eq_nil_iff.2 hfirst,
    List.filter_eq_nil_iff.2 hsecond, List.filter_eq_self.2 fun w => isDangling_of_mem_losses]
  rfl

lemma count_warnings (run : document.Run config parts api statistics)
    (h : document.resolve config = .ok (api, statistics))
    (hm : parts.registry.get? key = some m) (hunnamed : document.Unnamed config key) :
    statistics.warnings.count (.droppedSyntheticModel m.className) = 1 := by
  obtain ⟨warnings, hquiet, hwarnings⟩ := run.exists_warnings h
  have hfirst : Warning.droppedSyntheticModel m.className ∉ warnings :=
    fun hmem => absurd (hquiet _ hmem) (by simp [Warning.isLoss])
  have hlast : Warning.droppedSyntheticModel m.className ∉ parts.losses api :=
    fun hmem => absurd (isDangling_of_mem_losses hmem) (by simp [Warning.isDangling])
  rw [hwarnings, List.count_append, List.count_append, List.count_eq_zero_of_not_mem hfirst,
    List.count_eq_zero_of_not_mem hlast, run.count_warnings_settled hm hunnamed]

lemma lossesTold (run : document.Run config parts api statistics)
    (h : document.resolve config = .ok (api, statistics)) :
    document.LossesTold config parts api statistics where
  keys_sublist := run.keys_sublist
  operations_eq := by
    obtain ⟨models, memo, -, -, hoperations⟩ := run.exists_models
    refine map_eq_of_gives_mapM hoperations fun spec o ho => ?_
    obtain ⟨hid, hpath, hmethod⟩ := Scope.operation_identity ho
    rw [hid, hpath, hmethod]
  dangling_eq := run.filter_warnings h
  unnamed location key hmem := by
    have hlost : .danglingReference location key ∈ parts.losses api := by
      rw [← run.filter_warnings h]
      exact List.mem_filter.2 ⟨hmem, rfl⟩
    obtain ⟨hgone, hunnamed⟩ := run.unnamed_of_dangling hlost
    have hunion := hunnamed
    obtain ⟨spec, hspec, horigin, hshape, -⟩ := hunion
    obtain ⟨m, hm, -⟩ := run.exists_part hspec
    have hregistered : document.registeredName? key = some m.className := by
      rw [registeredName?, ← run.className?_parts]
      exact Settlement.className?_of_get? hm
    exact ⟨hgone, spec, m.className, hspec, horigin, hshape, hregistered,
      run.count_warnings h hm hunnamed⟩
  models_degrade e he := by
    obtain ⟨left, m, -, hleft, -, heq, hm, -⟩ := run.exists_source he
    rw [run.types_settled hleft, heq, ModelDescriptor.finished, ModelDescriptor.types_withFacts,
      ModelDescriptor.relabel, ModelDescriptor.types_mapTypes, ← run.types_settled hleft,
      ResolvedDocument.typesOf, hm]
    exact run.forall₂_degrades (run.models_current _ (Members.mem_of_get? hm))
  operations_degrade := by
    refine ⟨parts.operations.map
      (·.relabel (parts.settled document config).registry.className?), ?_, ?_⟩
    · rw [TypedApi.operations, run.tags_eq]
      exact (operations_groupByTag _).symm
    · refine List.forall₂_map_right_iff.2 (List.forall₂_same.2 fun o ho => ⟨rfl, ?_⟩)
      rw [OperationDescriptor.relabel, OperationDescriptor.types_mapTypes]
      exact run.forall₂_degrades (run.operations_current o ho)

end ApiDocument.Run

/-- **Every loss is told, and nothing else.**  Of the types in the models of a result and in its
operations exactly those have a warning that led to a model which is not there any more, in the
order of the result; exactly these had their leaf replaced by the type of any value, and their lists
and maps are as before.  They led to unions that stood in bodies and responses, and each of those
has one warning of its own. -/
theorem losses_told [Spelling] {document : ApiDocument} {config : Config} {api : TypedApi}
    {statistics : Statistics} (h : document.resolve config = .ok (api, statistics)) :
    ∃ parts, Gives (document.resolveParts config) parts ∧
      document.LossesTold config parts api statistics := by
  obtain ⟨parts, run⟩ := ApiDocument.exists_run h
  exact ⟨parts, run.parts_given, run.lossesTold h⟩

/-- A document in which a model and an operation lead to a union from a response that no operation
has a name for. -/
def ApiDocument.lostKinds : ApiDocument :=
  { title := "Pets"
    version := "1"
    models :=
      [("pet", { schema := ⟨.object { properties :=
          [("kinds", ⟨.array (some ⟨.reference "pet_kind", []⟩), []⟩)] }, []⟩ }),
        ("pet_kind", { schema := ⟨.union .oneOf [⟨.scalar { kind := .string }, []⟩,
          ⟨.scalar { kind := .boolean }, []⟩], []⟩, origin := .inlineResponse })]
    operations :=
      [{ path := "/kinds"
         method := "get"
         responses := [("200", { schema := some ⟨.reference "pet_kind", []⟩ })] }] }

lemma ApiDocument.exists_result_lostKinds : ∃ api statistics,
    lostKinds.resolve {} = .ok (api, statistics) ∧ statistics.warnings =
      [.droppedSyntheticModel "PetKind", .danglingReference "Pet" "pet_kind",
        .danglingReference "Pet" "pet_kind", .danglingReference "getKinds" "pet_kind"] :=
  exists_outcome_of (fun result => result.2.warnings) (by decide +kernel)

theorem lostKinds_losses_told : ∃ api statistics,
    ApiDocument.lostKinds.resolve {} = .ok (api, statistics) ∧
      .danglingReference "getKinds" "pet_kind" ∈ statistics.warnings ∧
      ∃ parts, Gives (ApiDocument.lostKinds.resolveParts {}) parts ∧
        ApiDocument.lostKinds.LossesTold {} parts api statistics := by
  obtain ⟨api, statistics, h, hwarnings⟩ := ApiDocument.exists_result_lostKinds
  refine ⟨api, statistics, h, ?_, losses_told h⟩
  rw [hwarnings]
  decide

end ApiTypes
