import ApiTypes.Proofs.Settlement

/-!
# What settling makes of one model

When no name is forced on it, the class name of a model changes at most once: bodies and responses
take a suggested name, and lifted unions lose their marker.  So the model that settling leaves can
be told from the model it started with, and counting the changes is counting the models that were
changed.  That a class name without its marker is another one takes a spelling that leaves ASCII as
it is.

* `Outcome` — what can become of a model, one case each for what it is and what is suggested.
* `namingTurn`, `markerTurn` — how far settling has come when it is the turn of a key;
  `get?_applySuggestions`, `get?_dropMarkers` — what it makes of the model then.
* `outcome_settle_of_free`, `outcome_settle` — **a model that is left came out of one of these
  cases.**
* `renamed_settle` — the count of changed names is the number of models that say so.
-/

namespace ApiTypes

/-- The name `base`, or the same with a number from two on. -/
def Name.NumberedFrom (base name : String) : Prop :=
  name = base ∨ ∃ i, 2 ≤ i ∧ name = Name.numbered base i

namespace ModelDescriptor

/-- A model after it took a class name.  Nothing has happened to it when it had that name. -/
def called (className : String) (m : ModelDescriptor) : ModelDescriptor :=
  if className = m.className then m else (m.titled className).renamedFrom m.className

variable {className : String} {m : ModelDescriptor}

lemma called_self (m : ModelDescriptor) : m.called m.className = m :=
  if_pos rfl

lemma called_of_ne (h : className ≠ m.className) :
    m.called className = (m.titled className).renamedFrom m.className :=
  if_neg h

@[simp] lemma className_called : (m.called className).className = className := by
  by_cases h : className = m.className
  · rw [h, called_self]
  · rw [called_of_ne h]
    rfl

lemma Stable.called {α : Type} {v : ModelDescriptor → α} (hv : Stable v) (className : String)
    (m : ModelDescriptor) : v (m.called className) = v m := by
  rw [ModelDescriptor.called]
  split
  · rfl
  · rw [hv.renamedFrom, hv.titled]

lemma renamed_mem_called : ModelFlag.renamed ∈ (m.called className).flags ↔
    className ≠ m.className ∨ ModelFlag.renamed ∈ m.flags := by
  by_cases h : className = m.className
  · simp [h, called_self]
  · simp [called_of_ne h, renamedFrom, ModelFlags.mem_set, h]

end ModelDescriptor

/-! ## Markers of union kinds -/

/-- A name without its marker is what stands behind it, and not empty. -/
lemma withoutUnionMarker_eq_some {className rest : String}
    (h : withoutUnionMarker className = some rest) :
    rest ≠ "" ∧ (className = "OneOf" ++ rest ∨ className = "AnyOf" ++ rest) := by
  have hsplit : ∀ (kind : UnionKind) (cs : List Char),
      Text.afterStart kind.marker.toList className.toList = some cs →
        className = kind.marker ++ String.ofList cs := fun kind cs hcs => by
    rw [← String.ofList_toList (s := className), Text.afterStart_eq_some_iff.1 hcs]
    simp
  simp only [withoutUnionMarker] at h
  split at h
  · rename_i c cs hfound
    obtain rfl := Option.some.inj h
    refine ⟨by simp, ?_⟩
    obtain ⟨kind, -, hkind⟩ := List.exists_of_findSome?_eq_some hfound
    cases kind with
    | oneOf => exact Or.inl (hsplit .oneOf (c :: cs) hkind)
    | anyOf => exact Or.inr (hsplit .anyOf (c :: cs) hkind)
  · cases h

/-- Without its marker a name is another one. -/
lemma className_ne_of_withoutUnionMarker [AsciiSpelling] {className rest : String}
    (hlegal : Name.Legal className) (h : withoutUnionMarker className = some rest) :
    Name.className rest ≠ className := by
  obtain ⟨hne, hname | hname⟩ := withoutUnionMarker_eq_some h
  · have hstart : "OneOf".toList = 'O' :: "neOf".toList := rfl
    exact Name.className_ne_of_append hlegal hname hstart (by decide) (by decide) hne
  · have hstart : "AnyOf".toList = 'A' :: "nyOf".toList := rfl
    exact Name.className_ne_of_append hlegal hname hstart (by decide) (by decide) hne

/-- The class name that a lifted union has after it was to lose its marker: the one without, unless
that is in use. -/
def Registry.unmarked [Spelling] (r : Registry) (className : String) : String :=
  match withoutUnionMarker className with
  | some rest => if Name.className rest ∈ r.usedNames then className else Name.className rest
  | none => className

lemma Registry.unmarked_cases [Spelling] (r : Registry) (className : String) :
    r.unmarked className = className ∨ ∃ rest, withoutUnionMarker className = some rest ∧
      r.unmarked className = Name.className rest := by
  rw [unmarked]
  cases hrest : withoutUnionMarker className with
  | none => exact Or.inl rfl
  | some rest =>
    by_cases htaken : Name.className rest ∈ r.usedNames
    · exact Or.inl (if_pos htaken)
    · exact Or.inr ⟨rest, rfl, if_neg htaken⟩

namespace Settlement

variable {s t : Settlement} {key desired : String} {m m' : ModelDescriptor}

/-! ## The steps of a key and its model -/

lemma className?_of_get? {r : Registry} (hm : r.get? key = some m) :
    r.className? key = some m.className := by
  rw [Registry.className?, hm]
  rfl

lemma get?_noteRename (hm : s.registry.get? key = some m) (previous : String) :
    (s.noteRename key previous).registry.get? key = some (m.renamedFrom previous) := by
  rw [noteRename, Registry.get?_update, if_pos rfl, hm]
  rfl

lemma get?_retitle (hm : s.registry.get? key = some m) (current className : String) :
    (s.retitle key current className).registry.get? key = some (m.titled className) := by
  rw [retitle, Registry.get?_retitle, if_pos rfl, hm]
  rfl

lemma get?_rename [Spelling] (hs : s.registry.Consistent) (hm : s.registry.get? key = some m)
    (desired : String) : (s.rename key desired).registry.get? key =
      some (m.called (s.registry.nameFor key (Name.className desired))) := by
  rcases s.rename_cases key desired with ⟨hnone, -⟩ | ⟨current, hcurrent, hcases⟩
  · rw [className?_of_get? hm] at hnone
    cases hnone
  obtain rfl := Option.some.inj ((className?_of_get? hm).symm.trans hcurrent)
  have hmem := hs.get?_eq_some.1 hm
  rcases hcases with ⟨hsame, heq⟩ | ⟨new, hnew, heq⟩
  · rw [heq, hm, hsame, hs.nameFor_className hmem, ModelDescriptor.called_self]
  · have hname : new = s.registry.nameFor key (Name.className desired) :=
      hnew.trans (Name.unique_congr (hs.mem_usedNames_filter hmem))
    rw [heq, ← hname]
    split
    · rename_i hsame
      rw [get?_retitle hm, hsame, ModelDescriptor.called_self]
      rfl
    · rename_i hne
      rw [get?_noteRename (get?_retitle hm _ _), ModelDescriptor.called_of_ne hne]

lemma get?_markBody (hm : s.registry.get? key = some m) :
    (s.markBody key).registry.get? key = some m.asBody := by
  rw [markBody_eq, Registry.get?_update, if_pos rfl, hm]
  rfl

lemma get?_dropMarker [AsciiSpelling] (hm : s.registry.get? key = some m)
    (hlegal : Name.Legal m.className) : (s.dropMarker key).registry.get? key =
      some (m.called (s.registry.unmarked m.className)) := by
  rw [dropMarker, className?_of_get? hm]
  dsimp only
  cases hrest : withoutUnionMarker m.className with
  | none => simp only [Registry.unmarked, hrest, ModelDescriptor.called_self, hm]
  | some rest =>
    have hne := className_ne_of_withoutUnionMarker hlegal hrest
    simp only [Registry.unmarked, hrest]
    rcases s.registry.renameIfFree_cases key (Name.className rest) with
      ⟨hnone, -⟩ | ⟨current, hcurrent, hcases⟩
    · rw [className?_of_get? hm] at hnone
      cases hnone
    obtain rfl := Option.some.inj ((className?_of_get? hm).symm.trans hcurrent)
    rcases hcases with ⟨hsame, -⟩ | ⟨-, htaken, heq⟩ | ⟨-, hfree, heq⟩
    · exact absurd hsame.symm hne
    · simp [heq, htaken, hm, ModelDescriptor.called_self]
    · rw [heq, if_neg hfree, ModelDescriptor.called_of_ne hne]
      exact get?_noteRename (get?_retitle hm _ _) m.className

/-! ## What can become of a model -/

/-- **What can become of a model** when no name is forced, by its origin and the name that is
suggested for its key. -/
inductive Outcome [Spelling] (suggested : Option String) (m : ModelDescriptor) :
    ModelDescriptor → Prop where
  /-- A declared model keeps its name. -/
  | declared (horigin : m.origin = .declared) : Outcome suggested m m
  /-- A lifted union keeps its name, or loses its marker. -/
  | composed {className : String} (horigin : m.origin = .composed)
      (hname : className = m.className ∨ ∃ rest, withoutUnionMarker m.className = some rest ∧
        className = Name.className rest) : Outcome suggested m (m.called className)
  /-- A body or a response that nothing gives a name keeps its own. -/
  | unnamed (horigin : m.origin = .requestBody ∨ m.origin = .inlineResponse)
      (hsuggested : suggested = none) : Outcome suggested m m
  | body {name className : String} (horigin : m.origin = .requestBody)
      (hsuggested : suggested = some name)
      (hname : Name.NumberedFrom (Name.className (desiredName name m.isUnion)) className) :
      Outcome suggested m (m.called className).asBody
  | response {name className : String} (horigin : m.origin = .inlineResponse)
      (hsuggested : suggested = some name)
      (hname : Name.NumberedFrom (Name.className (desiredName name m.isUnion)) className) :
      Outcome suggested m (m.called className)

namespace Outcome

variable [Spelling] {suggested : Option String}

lemma origin_eq (h : Outcome suggested m m') : m'.origin = m.origin := by
  cases h with
  | declared => rfl
  | composed => exact ModelDescriptor.stable_origin.called _ m
  | unnamed => rfl
  | body => exact ModelDescriptor.stable_origin.called _ m
  | response => exact ModelDescriptor.stable_origin.called _ m

/-- A model says that its name was changed when it has another one than before. -/
lemma renamed_mem_iff (h : Outcome suggested m m') (hm : ModelFlag.renamed ∉ m.flags) :
    ModelFlag.renamed ∈ m'.flags ↔ m'.className ≠ m.className := by
  cases h with
  | declared => simp [hm]
  | composed => simp [ModelDescriptor.renamed_mem_called, hm]
  | unnamed => simp [hm]
  | body =>
    simp [ModelDescriptor.asBody, ModelFlags.mem_set, ModelDescriptor.renamed_mem_called, hm]
  | response => simp [ModelDescriptor.renamed_mem_called, hm]

end Outcome

/-- How far taking suggested names has come when it is the turn of a key. -/
def namingTurn [Spelling] (s : Settlement) (suggestions : Suggestions) (key : String) :
    Settlement :=
  turn (·.1) (fun s e => s.carryOut e.1 (suggestions.ruling e.1 e.2.origin e.2.isUnion))
    s.registry.models s key

/-- The first step along the models sees each as it was at the start. -/
lemma get?_applySuggestions [Spelling] (hs : s.registry.Consistent) (suggestions : Suggestions)
    (hm : s.registry.get? key = some m) :
    Moves s (s.namingTurn suggestions key) ∧
      (s.namingTurn suggestions key).registry.get? key = some m ∧
      (s.applySuggestions suggestions).registry.get? key =
        ((s.namingTurn suggestions key).carryOut key
          (suggestions.ruling key m.origin m.isUnion)).registry.get? key := by
  obtain ⟨hmoves, ht, heq⟩ := (carryOut_actsOnKey _).foldl_turn hs.keys_nodup
    (fun _ => mem_keys_of_mem_models) (hs.get?_eq_some.1 hm)
  exact ⟨hmoves, ht.trans hm, heq⟩

/-- Only the ruling to leave a model out does so. -/
lemma get?_carryOut_eq_none_iff [Spelling] (hs : s.registry.Consistent)
    (hm : s.registry.get? key = some m) {ruling : Ruling} :
    (s.carryOut key ruling).registry.get? key = none ↔ ruling = .drop := by
  cases ruling with
  | keep => simp [carryOut, hm]
  | rename desired => simp [carryOut, get?_rename hs hm]
  | renameBody desired => simp [carryOut, get?_markBody (get?_rename hs hm desired)]
  | drop => simp [carryOut, dropUnnamed, drop, Registry.get?_remove]

/-- A model that is left when it was not to be renamed is as it was. -/
lemma eq_of_get?_carryOut [Spelling] (hm : s.registry.get? key = some m) (isUnion : Bool)
    (hm' : (s.carryOut key (if isUnion then .drop else .keep)).registry.get? key = some m') :
    m' = m := by
  cases isUnion with
  | true =>
    have hgone : (s.dropUnnamed key).registry.get? key = none :=
      (Registry.get?_remove key).trans (if_pos rfl)
    exact absurd (hm'.symm.trans hgone) (by simp)
  | false => exact Option.some.inj (hm'.symm.trans hm)

lemma isForced_of_nil [Spelling] {suggestions : Suggestions} (hforced : suggestions.forced = [])
    (key : String) : suggestions.isForced key = false := by
  rw [Suggestions.isForced, hforced]
  rfl

/-- When no name is forced on a key, suggested names count for bodies and responses. -/
lemma ruling_of_free [Spelling] {suggestions : Suggestions}
    (hfree : suggestions.isForced key = false) (origin : Origin) (isUnion : Bool) :
    suggestions.ruling key origin isUnion =
      match origin with
      | .declared | .composed => .keep
      | .requestBody => match suggestions.name? key with
        | some name => .renameBody (desiredName name isUnion)
        | none => if isUnion then .drop else .keep
      | .inlineResponse => match suggestions.name? key with
        | some name => .rename (desiredName name isUnion)
        | none => if isUnion then .drop else .keep := by
  simp only [Suggestions.ruling, hfree]
  cases origin <;> cases suggestions.name? key <;> rfl

/-- Bodies and responses are left out that are unions and have no name at all. -/
lemma ruling_eq_drop_iff [Spelling] {suggestions : Suggestions} {origin : Origin} {isUnion : Bool} :
    suggestions.ruling key origin isUnion = .drop ↔
      (origin = .requestBody ∨ origin = .inlineResponse) ∧ isUnion = true ∧
        suggestions.isForced key = false ∧ suggestions.name? key = none := by
  cases hforced : suggestions.isForced key with
  | true =>
    simp only [Suggestions.ruling, hforced, if_true]
    cases suggestions.name? key <;> simp
  | false =>
    rw [ruling_of_free hforced]
    cases origin <;> cases suggestions.name? key <;> cases isUnion <;> simp

/-- The outcome after suggested names were taken, before lifted unions lose their markers. -/
lemma outcome_applySuggestions [Spelling] (hs : s.registry.Consistent) {suggestions : Suggestions}
    (hfree : suggestions.isForced key = false) (hm : s.registry.get? key = some m)
    (hm' : (s.applySuggestions suggestions).registry.get? key = some m') :
    (m.origin = .composed ∧ m' = m) ∨
      (m.origin ≠ .composed ∧ Outcome (suggestions.name? key) m m') := by
  obtain ⟨hmoves, ht, heq⟩ := get?_applySuggestions hs suggestions hm
  have htaken := get?_rename (hmoves.consistent hs) ht
  rw [heq, ruling_of_free hfree] at hm'
  cases horigin : m.origin with
  | declared =>
    rw [horigin] at hm'
    obtain rfl := eq_of_get?_carryOut ht false hm'
    exact Or.inr ⟨by simp, .declared horigin⟩
  | composed =>
    rw [horigin] at hm'
    exact Or.inl ⟨rfl, eq_of_get?_carryOut ht false hm'⟩
  | requestBody =>
    refine Or.inr ⟨by simp, ?_⟩
    rw [horigin] at hm'
    cases hname : suggestions.name? key with
    | none =>
      rw [hname] at hm'
      obtain rfl := eq_of_get?_carryOut ht _ hm'
      exact .unnamed (Or.inl horigin) rfl
    | some name =>
      rw [hname] at hm'
      obtain rfl := Option.some.inj (hm'.symm.trans (get?_markBody (htaken _)))
      exact .body horigin rfl (Name.unique_eq_or_numbered _ _)
  | inlineResponse =>
    refine Or.inr ⟨by simp, ?_⟩
    rw [horigin] at hm'
    cases hname : suggestions.name? key with
    | none =>
      rw [hname] at hm'
      obtain rfl := eq_of_get?_carryOut ht _ hm'
      exact .unnamed (Or.inr horigin) rfl
    | some name =>
      rw [hname] at hm'
      obtain rfl := Option.some.inj (hm'.symm.trans (htaken _))
      exact .response horigin rfl (Name.unique_eq_or_numbered _ _)

/-- How far the last step has come when it is the turn of a key. -/
def markerTurn [Spelling] (s : Settlement) (key : String) : Settlement :=
  turn (·.1) (fun s e => if e.2.origin = .composed then s.dropMarker e.1 else s)
    s.registry.models s key

/-- The last step along the models leaves all of them, and lifted unions without their markers. -/
lemma get?_dropMarkers [AsciiSpelling] (hs : s.registry.Consistent) (hlegal : s.registry.LegalNames)
    (hm : s.registry.get? key = some m) :
    s.dropMarkers.registry.get? key = some (if m.origin = .composed
      then m.called ((s.markerTurn key).registry.unmarked m.className) else m) := by
  obtain ⟨hmoves, ht, heq⟩ := dropMarker_actsOnKey.foldl_turn hs.keys_nodup
    (fun _ => mem_keys_of_mem_models) (hs.get?_eq_some.1 hm)
  have heq : s.dropMarkers.registry.get? key = _ := heq
  have ht := ht.trans hm
  rw [heq]
  split
  · exact get?_dropMarker ht (hmoves.legalNames hlegal _ (Members.mem_of_get? ht))
  · exact ht

/-- It changes lifted unions alone. -/
lemma outcome_dropMarkers [AsciiSpelling] (hs : s.registry.Consistent)
    (hlegal : s.registry.LegalNames) (hm : s.registry.get? key = some m)
    (hm' : s.dropMarkers.registry.get? key = some m') : (m.origin ≠ .composed ∧ m' = m) ∨
      (m.origin = .composed ∧ ∀ suggested, Outcome suggested m m') := by
  obtain rfl := Option.some.inj (hm'.symm.trans (get?_dropMarkers hs hlegal hm))
  by_cases horigin : m.origin = .composed
  · rw [if_pos horigin]
    exact Or.inr ⟨horigin, fun _ => .composed horigin (Registry.unmarked_cases _ _)⟩
  · rw [if_neg horigin]
    exact Or.inl ⟨horigin, rfl⟩

end Settlement

open Settlement in
/-- **A model that is left** when names were settled, and on which none is forced, **has one of the
outcomes.** -/
theorem outcome_settle_of_free [AsciiSpelling] {r : Registry} (hr : r.Consistent)
    (hlegal : r.LegalNames) {suggestions : Suggestions} {operations : List OperationDescriptor}
    {key : String} {m m' : ModelDescriptor} (hfree : suggestions.isForced key = false)
    (hm : r.get? key = some m)
    (hm' : (r.settle suggestions operations).registry.get? key = some m') :
    Outcome (suggestions.name? key) m m' := by
  have hnamed := applySuggestions_moves (s := ⟨r, 0, 0, []⟩) hr suggestions
  have hnamed' := hnamed.consistent hr
  have hleft := dropUnreferenced_moves hnamed' (operations.flatMap (·.references))
  have hmoves : Moves _ _ := hnamed.trans hleft
  obtain ⟨last, hlast⟩ := (dropMarkers_moves (hmoves.consistent hr)).exists_get? hm'
  have hfirst := outcome_applySuggestions (s := ⟨r, 0, 0, []⟩) hr hfree hm
    (get?_dropUnreferenced hnamed' hlast)
  have hsecond := outcome_dropMarkers (hmoves.consistent hr) (hmoves.legalNames hlegal) hlast hm'
  rcases hfirst with ⟨hcomposed, rfl⟩ | ⟨hother, houtcome⟩
  · rcases hsecond with ⟨hother, -⟩ | ⟨-, houtcome⟩
    · exact absurd hcomposed hother
    · exact houtcome _
  · have horigin : last.origin = m.origin := houtcome.origin_eq
    rcases hsecond with ⟨-, rfl⟩ | ⟨hcomposed, -⟩
    · exact houtcome
    · exact absurd (horigin.symm.trans hcomposed) hother

/-- No name is forced on any model when none is forced at all. -/
theorem outcome_settle [AsciiSpelling] {r : Registry} (hr : r.Consistent) (hlegal : r.LegalNames)
    {suggestions : Suggestions} (hforced : suggestions.forced = [])
    {operations : List OperationDescriptor} {key : String} {m m' : ModelDescriptor}
    (hm : r.get? key = some m)
    (hm' : (r.settle suggestions operations).registry.get? key = some m') :
    Settlement.Outcome (suggestions.name? key) m m' :=
  outcome_settle_of_free hr hlegal (Settlement.isForced_of_nil hforced key) hm hm'

namespace Settlement

variable {s : Settlement} {key : String} {m : ModelDescriptor}

/-! ## Counting changes -/

/-- Whether a model says that its name was changed. -/
def isRenamed (m : ModelDescriptor) : Bool :=
  decide (ModelFlag.renamed ∈ m.flags)

lemma isRenamed_titled (className : String) (m : ModelDescriptor) :
    isRenamed (m.titled className) = isRenamed m :=
  rfl

/-- The count of changed names is the number of models that say so. -/
def Tallied (s : Settlement) : Prop :=
  s.renamed = s.registry.models.countP (isRenamed ·.2)

/-- The models before and after one of them, in a registry that has each key once. -/
lemma exists_split (hs : s.registry.Consistent) (hm : s.registry.get? key = some m) :
    ∃ before after, s.registry.models = before ++ (key, m) :: after ∧
      (∀ e ∈ before, e.1 ≠ key) ∧ ∀ e ∈ after, e.1 ≠ key := by
  obtain ⟨before, after, hsplit⟩ := List.append_of_mem (hs.get?_eq_some.1 hm)
  have hnd := hs.keys_nodup
  rw [Registry.keys, hsplit, Members.names, List.map_append, List.map_cons] at hnd
  obtain ⟨-, hafter, hdisjoint⟩ := List.nodup_append.1 hnd
  obtain ⟨hfresh, -⟩ := List.nodup_cons.1 hafter
  refine ⟨before, after, hsplit, fun e he heq => ?_, fun e he heq => ?_⟩
  · exact hdisjoint _ (List.mem_map_of_mem he) _ List.mem_cons_self heq
  · exact hfresh (List.mem_map.2 ⟨e, he, heq⟩)

lemma tallied_noteRename (h : s.Tallied) (hs : s.registry.Consistent)
    (hm : s.registry.get? key = some m) (hnot : isRenamed m = false) (previous : String) :
    (s.noteRename key previous).Tallied := by
  obtain ⟨before, after, hsplit, hbefore, hafter⟩ := exists_split hs hm
  have hsame : ∀ es : List (String × ModelDescriptor), (∀ e ∈ es, e.1 ≠ key) →
      (es.map fun e => (e.1, if e.1 = key then e.2.renamedFrom previous else e.2)) = es :=
    fun es hes => by
      conv_rhs => rw [← List.map_id es]
      refine List.map_congr_left fun e he => ?_
      rw [if_neg (hes e he)]
      rfl
  have hrenamed : isRenamed (m.renamedFrom previous) = true :=
    decide_eq_true (ModelFlags.mem_set.2 (Or.inl rfl))
  rw [Tallied, hsplit] at h
  show s.renamed + 1 = List.countP _ (s.registry.models.map fun e =>
    (e.1, if e.1 = key then e.2.renamedFrom previous else e.2))
  rw [hsplit, List.map_append, List.map_cons, hsame before hbefore, hsame after hafter, h]
  simp [List.countP_append, hnot, hrenamed]
  omega

/-- What does not change what the models say leaves the count right. -/
lemma tallied_of_view {t : Settlement} (h : s.Tallied) (hcount : t.renamed = s.renamed)
    (hview : t.registry.view isRenamed = s.registry.view isRenamed) : t.Tallied := by
  have hcountP : ∀ r : Registry,
      r.models.countP (isRenamed ·.2) = (r.view isRenamed).countP (·.2) := fun r => by
    rw [Registry.view, List.countP_map]
    rfl
  rw [Tallied, hcount, hcountP, hview, ← hcountP]
  exact h

lemma tallied_drop (h : s.Tallied) (hs : s.registry.Consistent)
    (hm : s.registry.get? key = some m) (hnot : isRenamed m = false) : (s.drop key).Tallied := by
  obtain ⟨before, after, hsplit, hbefore, hafter⟩ := exists_split hs hm
  have hsame : ∀ es : List (String × ModelDescriptor), (∀ e ∈ es, e.1 ≠ key) →
      (es.filter fun e => e.1 ≠ key) = es :=
    fun es hes => List.filter_eq_self.2 fun e he => decide_eq_true (hes e he)
  rw [Tallied, hsplit] at h
  rw [Tallied, drop, Registry.models_remove, hsplit, List.filter_append,
    List.filter_cons_of_neg (by simp), hsame before hbefore, hsame after hafter]
  simpa [List.countP_append, List.countP_cons, hnot] using h

lemma tallied_retitle (h : s.Tallied) (key current className : String) :
    (s.retitle key current className).Tallied :=
  tallied_of_view h rfl (Registry.view_retitle fun _ => rfl)

lemma tallied_rename [Spelling] (h : s.Tallied) (hs : s.registry.Consistent)
    (hm : s.registry.get? key = some m) (hnot : isRenamed m = false) (desired : String) :
    (s.rename key desired).Tallied := by
  have hmoves := rename_moves s key desired
  obtain ⟨-, heq⟩ | ⟨current, hcurrent, ⟨-, heq⟩ | ⟨new, hnew, heq⟩⟩ := s.rename_cases key desired
  · rwa [heq]
  · rwa [heq]
  · rw [heq]
    split
    · exact tallied_retitle h key current new
    · refine tallied_noteRename (tallied_retitle h key current new) ?_
        (get?_retitle hm current new) ?_ current
      · exact hs.retitle hcurrent (hnew ▸ Name.unique_not_mem _ _)
      · rw [isRenamed_titled, hnot]

lemma tallied_carryOut [Spelling] (h : s.Tallied) (hs : s.registry.Consistent)
    (hm : s.registry.get? key = some m) (hnot : isRenamed m = false) (ruling : Ruling) :
    (s.carryOut key ruling).Tallied := by
  cases ruling with
  | keep => exact h
  | rename desired => exact tallied_rename h hs hm hnot desired
  | renameBody desired =>
    refine tallied_of_view (tallied_rename h hs hm hnot desired) rfl ?_
    exact Registry.view_update fun m => by simp [isRenamed, ModelFlags.mem_set]
  | drop => exact tallied_of_view (tallied_drop h hs hm hnot) rfl rfl

lemma tallied_dropMarker [Spelling] (h : s.Tallied) (hs : s.registry.Consistent)
    (hm : s.registry.get? key = some m) (hnot : isRenamed m = false) :
    (s.dropMarker key).Tallied := by
  obtain heq | ⟨current, rest, hcurrent, -, ⟨-, heq⟩ | ⟨hfree, heq⟩⟩ := s.dropMarker_cases key
  · rwa [heq]
  · rw [heq]
    exact tallied_noteRename h hs hm hnot current
  · rw [heq]
    have htitled := tallied_retitle h key current (Name.className rest)
    refine tallied_noteRename htitled ?_ (get?_retitle hm current (Name.className rest)) ?_ current
    · exact hs.retitle hcurrent fun hmem => hfree (List.mem_of_mem_filter hmem)
    · rw [isRenamed_titled, hnot]

/-! ### The whole -/

/-- While suggested names are taken, no model is changed twice. -/
lemma tallied_applySuggestions [Spelling] (h : s.Tallied) (hs : s.registry.Consistent)
    (hnot : ∀ e ∈ s.registry.models, isRenamed e.2 = false) (suggestions : Suggestions) :
    (s.applySuggestions suggestions).Tallied := by
  have hstep : ∀ t : Settlement, ∀ e ∈ s.registry.models, ∀ m, t.registry.Consistent ∧ t.Tallied →
      s.registry.get? e.1 = some m → t.registry.get? e.1 = some m →
      (t.carryOut e.1 (suggestions.ruling e.1 e.2.origin e.2.isUnion)).registry.Consistent ∧
        (t.carryOut e.1 (suggestions.ruling e.1 e.2.origin e.2.isUnion)).Tallied := by
    rintro t e he m ⟨ht, htallied⟩ hm hm'
    have hunchanged := hnot _ (Members.mem_of_get? hm)
    exact ⟨(carryOut_moves (Registry.mem_keys_iff.2 ⟨m, hm'⟩) _).consistent ht,
      tallied_carryOut htallied ht hm' hunchanged _⟩
  exact ((carryOut_actsOnKey fun e => suggestions.ruling e.1 e.2.origin e.2.isUnion).foldl_induction
    hs.keys_nodup (fun _ => mem_keys_of_mem_models) hstep ⟨hs, h⟩).2

/-- Lifted unions that are left out say nothing of a change. -/
lemma tallied_dropUnreferenced (h : s.Tallied) (hs : s.registry.Consistent)
    (hnot : ∀ k m, s.registry.get? k = some m → m.origin = .composed → isRenamed m = false)
    (fromOperations : List String) : (s.dropUnreferenced fromOperations).Tallied := by
  refine (dropUnreferenced_induction (P := fun t => t.Tallied ∧
    ∀ k m, t.registry.get? k = some m → s.registry.get? k = some m) ?_ hs ⟨h, fun _ _ h => h⟩).1
  rintro t key m ht ⟨htallied, hsame⟩ hm horigin
  refine ⟨tallied_drop htallied ht hm (hnot key m (hsame key m hm) horigin), fun k m' hm' => ?_⟩
  rw [drop, Registry.get?_remove] at hm'
  split at hm'
  · cases hm'
  · exact hsame k m' hm'

lemma tallied_dropMarkers [Spelling] (h : s.Tallied) (hs : s.registry.Consistent)
    (hnot : ∀ k m, s.registry.get? k = some m → m.origin = .composed → isRenamed m = false) :
    s.dropMarkers.Tallied := by
  refine (dropMarker_actsOnKey.foldl_induction
    (P := fun t => t.registry.Consistent ∧ t.Tallied) hs.keys_nodup
    (fun _ => mem_keys_of_mem_models) ?_ ⟨hs, h⟩).2
  rintro t ⟨key, own⟩ he m ⟨ht, htallied⟩ hm hm'
  obtain rfl := Option.some.inj ((hs.get?_eq_some.2 he).symm.trans hm)
  split
  · rename_i horigin
    exact ⟨(dropMarker_moves t key).consistent ht,
      tallied_dropMarker htallied ht hm' (hnot key own hm horigin)⟩
  · exact ⟨ht, htallied⟩

end Settlement

open Settlement in
/-- **The count of changed names** is the number of models that say so, when none is forced. -/
theorem renamed_settle [Spelling] {r : Registry} (hr : r.Consistent)
    (hnot : ∀ e ∈ r.models, isRenamed e.2 = false) {suggestions : Suggestions}
    (hforced : suggestions.forced = []) (operations : List OperationDescriptor) :
    (r.settle suggestions operations).renamed =
      (r.settle suggestions operations).registry.models.countP (isRenamed ·.2) := by
  have hstart : (Settlement.mk r 0 0 []).Tallied := by
    rw [Tallied, eq_comm, List.countP_eq_zero]
    exact fun e he => by simp [hnot e he]
  have hnamed := applySuggestions_moves (s := ⟨r, 0, 0, []⟩) hr suggestions
  have hnamed' := hnamed.consistent hr
  have hleft := dropUnreferenced_moves hnamed' (operations.flatMap (·.references))
  -- lifted unions are as they were until they lose their markers
  have hcomposed : ∀ k m, ((Settlement.mk r 0 0 []).applySuggestions suggestions).registry.get? k =
      some m → m.origin = .composed → isRenamed m = false := fun k m hm horigin => by
    obtain ⟨first, hfirst⟩ := hnamed.exists_get? hm
    rcases outcome_applySuggestions (s := ⟨r, 0, 0, []⟩) hr (isForced_of_nil hforced k) hfirst hm
      with
      ⟨-, rfl⟩ | ⟨hother, houtcome⟩
    · exact hnot _ (Members.mem_of_get? hfirst)
    · exact absurd (houtcome.origin_eq.symm.trans horigin) hother
  have hnamedTallied := tallied_applySuggestions hstart hr hnot suggestions
  have hleftTallied := tallied_dropUnreferenced hnamedTallied hnamed' hcomposed
    (operations.flatMap (·.references))
  exact tallied_dropMarkers hleftTallied (hleft.consistent hnamed') fun k m hm =>
    hcomposed k m (get?_dropUnreferenced hnamed' hm)

end ApiTypes
