import ApiTypes.Naming.Suggestions
import ApiTypes.Proofs.Run

/-!
# Who has a name for whom

The names that operations have for the models they use come one after another and are kept by keys
in camel case.  Which of them counts in the end can be read off the document: the last one that is
forced, or else the first one that is suggested.

* `Naming` — one name that an operation has for a key; `Naming.lastForced`, `Naming.firstSuggested`
  — which of several count.
* `Suggestions.ofHistory` — the names after some came one by one; `name?_ofHistory`,
  `isForced_ofHistory` — **what they answer**.
* `ApiDocument.namings` — the names that the operations of a document have, in order;
  `override?`, `suggestion?` — those that count for a key.
* `naming_cases` — where the names come from.
* `Run.suggestions_eq` — a run keeps the names of its document.
-/

namespace ApiTypes

/-! ## Names one after another -/

/-- A name for the model of a key.  Forced names go before those that are only suggested. -/
structure Naming where
  key : String
  name : String
  forced : Bool := false

namespace Naming

variable [Spelling]

/-- Whether a name is for a key, or for one that is the same in camel case. -/
def isFor (n : Naming) (key : String) : Bool :=
  Name.camelize n.key = Name.camelize key

/-- The last name that is forced on a key. -/
def lastForced (ns : List Naming) (key : String) : Option String :=
  (ns.reverse.find? fun n => n.forced && n.isFor key).map (·.name)

/-- The first name that is suggested for a key. -/
def firstSuggested (ns : List Naming) (key : String) : Option String :=
  (ns.find? fun n => !n.forced && n.isFor key).map (·.name)

end Naming

namespace Suggestions

variable [Spelling] {s : Suggestions}

/-- Names with one more. -/
def record (s : Suggestions) (n : Naming) : Suggestions :=
  if n.forced then s.force n.key n.name else (s.suggest n.key n.name).1

/-- The names after some came one by one. -/
def ofHistory (ns : List Naming) : Suggestions :=
  ns.foldl record .empty

lemma get?_suggested_record (n : Naming) (k : String) :
    Members.get? (s.record n).suggested k = (Members.get? s.suggested k).or
      (if !n.forced && Name.camelize n.key = k then some n.name else none) := by
  rw [record]
  split
  · rename_i hforced
    simp [force, hforced]
  rename_i hforced
  simp only [suggest]
  split
  · rename_i hmem
    by_cases h : Name.camelize n.key = k
    · obtain ⟨name, hname⟩ := Option.isSome_iff_exists.1
        (Members.get?_isSome.2 (Members.has_iff.1 hmem))
      rw [h] at hname
      simp [hname]
    · simp [h]
  · rw [Members.get?_append, Members.get?_cons]
    simp [hforced]
    rfl

lemma get?_forced_record (n : Naming) (k : String) :
    Members.get? (s.record n).forced k =
      (if n.forced && Name.camelize n.key = k then some n.name else none).or
        (Members.get? s.forced k) := by
  rw [record]
  split
  · rename_i hforced
    rw [force, Members.get?_put]
    by_cases h : Name.camelize n.key = k <;> simp [hforced, h]
  · rename_i hforced
    simp only [suggest]
    split <;> simp [hforced]

/-- **Of several suggestions for a key the first counts.** -/
lemma get?_suggested_foldl_record (ns : List Naming) (k : String) :
    Members.get? (ns.foldl record s).suggested k = (Members.get? s.suggested k).or
      ((ns.find? fun n => !n.forced && Name.camelize n.key = k).map (·.name)) := by
  induction ns generalizing s with
  | nil => simp
  | cons n ns ih =>
    rw [List.foldl_cons, ih, get?_suggested_record, Option.or_assoc, List.find?_cons]
    cases !n.forced && decide (Name.camelize n.key = k) <;> simp

/-- **Of several names forced on a key the last counts.** -/
lemma get?_forced_foldl_record (ns : List Naming) (k : String) :
    Members.get? (ns.foldl record s).forced k =
      ((ns.reverse.find? fun n => n.forced && Name.camelize n.key = k).map (·.name)).or
        (Members.get? s.forced k) := by
  induction ns generalizing s with
  | nil => simp
  | cons n ns ih =>
    rw [List.foldl_cons, ih, get?_forced_record, List.reverse_cons, List.find?_append,
      ← Option.or_assoc]
    congr 1
    rw [Option.map_or, List.find?_cons]
    cases n.forced && decide (Name.camelize n.key = k) <;> simp

/-- Suggestions force nothing. -/
lemma forced_foldl_record {ns : List Naming} (h : ∀ n ∈ ns, n.forced = false) :
    (ns.foldl record s).forced = s.forced := by
  induction ns generalizing s with
  | nil => rfl
  | cons n ns ih =>
    obtain ⟨hn, hns⟩ := List.forall_mem_cons.1 h
    rw [List.foldl_cons, ih hns, record, hn, if_neg (by simp), suggest]
    split <;> rfl

/-- The forced name goes before the suggested one. -/
lemma name?_ofHistory (ns : List Naming) (key : String) :
    (ofHistory ns).name? key = (Naming.lastForced ns key).or (Naming.firstSuggested ns key) := by
  rw [name?, ofHistory, get?_forced_foldl_record, get?_suggested_foldl_record]
  exact congrArg (Option.or · _) (Option.or_none)

lemma isForced_ofHistory (ns : List Naming) (key : String) :
    (ofHistory ns).isForced key = (Naming.lastForced ns key).isSome := by
  rw [isForced, Bool.eq_iff_iff, Members.has_iff, ← Members.get?_isSome, ofHistory,
    get?_forced_foldl_record]
  exact iff_of_eq (congrArg (fun x : Option String => x.isSome = true) Option.or_none)

end Suggestions

/-! ## The names in a document -/

namespace ApiDocument

/-- The origin of the model under a key. -/
def originOf? (document : ApiDocument) (key : String) : Option Origin :=
  (Members.get? document.models key).map (·.origin)

variable [Spelling]

/-- The class name that is registered for a key. -/
def registeredName? (document : ApiDocument) (key : String) : Option String :=
  (Registry.ofDocument document).1.className? key

/-- The name that a body suggests for the lifted body that it refers to, unless the configuration
excludes that one. -/
def bodyHint? (document : ApiDocument) (config : Config) (b : RequestBodySpec) :
    Option (String × String) :=
  match b.schema.referenceName, operationNameHint b.metadata with
  | some key, some name =>
    if document.originOf? key = some .requestBody ∧ key ∉ config.excludedBodies ∧
        Name.camelize key ∉ config.excludedBodies then some (key, name)
    else none
  | _, _ => none

/-- The name that a response suggests for the lifted response that it refers to. -/
def responseHint? (document : ApiDocument) (code : String) (r : ResponseSpec) :
    Option (String × String) :=
  match r.schema.bind (·.referenceName), operationNameHint r.metadata with
  | some key, some name =>
    if document.originOf? key = some .inlineResponse then
      some (key, name ++ "Response" ++ Name.camelize code)
    else none
  | _, _ => none

/-- The name that a response has for the model that it refers to: the one that the configuration
has for the registered class name, which is forced, or else the one that it suggests. -/
def responseNaming? (document : ApiDocument) (config : Config) (code : String) (r : ResponseSpec) :
    Option Naming :=
  match r.schema.bind (·.referenceName) with
  | none => none
  | some key =>
    match (document.registeredName? key).bind config.responseName? with
    | some name => some ⟨key, name, true⟩
    | none => (document.responseHint? code r).map fun hint => ⟨hint.1, hint.2, false⟩

/-- The names that operations have for models, in order: that of its body before those of its
responses. -/
def namings (document : ApiDocument) (config : Config) : List Naming :=
  document.operations.flatMap fun o =>
    (o.requestBody.toList.flatMap fun b =>
        ((document.bodyHint? config b).map fun hint => ⟨hint.1, hint.2, false⟩).toList) ++
      o.responses.flatMap fun e => (document.responseNaming? config e.1 e.2).toList

/-- The name that the configuration forces on a key: the last one, when there are several. -/
def override? (document : ApiDocument) (config : Config) (key : String) : Option String :=
  Naming.lastForced (document.namings config) key

/-- The name that is suggested for a key: the first one, when there are several. -/
def suggestion? (document : ApiDocument) (config : Config) (key : String) : Option String :=
  Naming.firstSuggested (document.namings config) key

section

variable {document : ApiDocument} {config : Config} {key : String}

lemma bodyHint?_cases {b : RequestBodySpec} {hint : String × String}
    (h : document.bodyHint? config b = some hint) :
    document.originOf? hint.1 = some .requestBody ∧ hint.1 ∉ config.excludedBodies := by
  rw [bodyHint?] at h
  split at h
  · split at h
    · rename_i hbody
      obtain rfl := Option.some.inj h
      exact ⟨hbody.1, hbody.2.1⟩
    · cases h
  · cases h

lemma responseHint?_cases {code : String} {r : ResponseSpec} {hint : String × String}
    (h : document.responseHint? code r = some hint) :
    document.originOf? hint.1 = some .inlineResponse := by
  rw [responseHint?] at h
  split at h
  · split at h
    · rename_i hresponse
      obtain rfl := Option.some.inj h
      exact hresponse
    · cases h
  · cases h

lemma responseNaming?_cases {code : String} {r : ResponseSpec} {n : Naming}
    (h : document.responseNaming? config code r = some n) :
    (n.forced = true ∧
        (document.registeredName? n.key).bind config.responseName? = some n.name) ∨
      n.forced = false ∧ document.originOf? n.key = some .inlineResponse := by
  rw [responseNaming?] at h
  split at h
  · cases h
  split at h
  · rename_i hname
    obtain rfl := Option.some.inj h
    exact Or.inl ⟨rfl, hname⟩
  · obtain ⟨hint, hhint, rfl⟩ := Option.map_eq_some_iff.1 h
    exact Or.inr ⟨rfl, responseHint?_cases hhint⟩

/-- **Where a name comes from**: a forced one from the configuration, and others are for bodies that
it does not exclude, or for responses. -/
lemma naming_cases {n : Naming} (hn : n ∈ document.namings config) :
    (n.forced = true ∧
        (document.registeredName? n.key).bind config.responseName? = some n.name) ∨
      n.forced = false ∧
        ((document.originOf? n.key = some .requestBody ∧ n.key ∉ config.excludedBodies) ∨
          document.originOf? n.key = some .inlineResponse) := by
  obtain ⟨o, -, hn⟩ := List.mem_flatMap.1 hn
  rcases List.mem_append.1 hn with hbody | hresponse
  · obtain ⟨b, -, hn⟩ := List.mem_flatMap.1 hbody
    obtain ⟨hint, hhint, rfl⟩ := Option.map_eq_some_iff.1 (Option.mem_toList.1 hn)
    exact Or.inr ⟨rfl, Or.inl (bodyHint?_cases hhint)⟩
  · obtain ⟨e, -, hn⟩ := List.mem_flatMap.1 hresponse
    exact (responseNaming?_cases (Option.mem_toList.1 hn)).imp_right fun h => ⟨h.1, Or.inr h.2⟩

/-- What is forced on a key is a name that some response has for it, or for one that is the same in
camel case. -/
lemma mem_of_override {forced : String} (h : document.override? config key = some forced) :
    ∃ n ∈ document.namings config, n.forced = true ∧ n.isFor key = true ∧ n.name = forced := by
  obtain ⟨n, hn, rfl⟩ := Option.map_eq_some_iff.1 h
  have hfound := List.find?_some hn
  rw [Bool.and_eq_true] at hfound
  exact ⟨n, List.mem_reverse.1 (List.mem_of_find?_eq_some hn), hfound.1, hfound.2, rfl⟩

lemma exists_override {n : Naming} (hn : n ∈ document.namings config) (hforced : n.forced = true)
    (hkey : n.isFor key = true) : ∃ forced, document.override? config key = some forced := by
  rw [← Option.isSome_iff_exists, override?, Naming.lastForced, Option.isSome_map,
    List.find?_isSome]
  exact ⟨n, List.mem_reverse.2 hn, by rw [hforced, hkey]; rfl⟩

end

namespace Run

variable {document : ApiDocument} {config : Config} {parts : ResolvedDocument} {api : TypedApi}
  {statistics : Statistics}

lemma originOf?_eq (run : document.Run config parts api statistics) (key : String) :
    document.originOf? key = (parts.registry.get? key).map (·.origin) := by
  rw [← Registry.get?_view, run.origins_parts]
  exact (Members.get?_map (fun _ spec => spec.origin) document.models key).symm

lemma hasOrigin_iff (run : document.Run config parts api statistics)
    (key : String) (origin : Origin) :
    Scope.hasOrigin ⟨parts.registry, config⟩ key origin = true ↔
      document.originOf? key = some origin := by
  rw [run.originOf?_eq, Scope.hasOrigin, Option.any_eq_true]
  simp

lemma suggestBody_eq (run : document.Run config parts api statistics)
    (b : RequestBodySpec) (s : Suggestions) :
    Scope.suggestBody ⟨parts.registry, config⟩ b s =
      ((document.bodyHint? config b).map fun hint => ⟨hint.1, hint.2, false⟩).toList.foldl
        Suggestions.record s := by
  rcases hkey : b.schema.referenceName with _ | key
  · simp [Scope.suggestBody, bodyHint?, hkey]
  rcases hname : operationNameHint b.metadata with _ | name
  · simp [Scope.suggestBody, bodyHint?, hkey, hname]
  have hcond : (Scope.hasOrigin ⟨parts.registry, config⟩ key .requestBody &&
      !config.excludesBody key && !config.excludesBody (Name.camelize key)) = true ↔
      document.originOf? key = some .requestBody ∧ key ∉ config.excludedBodies ∧
        Name.camelize key ∉ config.excludedBodies := by
    simp [run.hasOrigin_iff, Config.excludesBody, and_assoc]
  simp only [Scope.suggestBody, bodyHint?, hkey, hname, hcond]
  split <;> rfl

lemma suggestResponse_eq (run : document.Run config parts api statistics)
    (code : String) (r : ResponseSpec) (s : Suggestions) :
    Scope.suggestResponse ⟨parts.registry, config⟩ code r s =
      (document.responseNaming? config code r).toList.foldl Suggestions.record s := by
  rcases hkey : r.schema.bind (·.referenceName) with _ | key
  · simp [Scope.suggestResponse, responseNaming?, hkey]
  have hname : (parts.registry.className? key).bind config.responseName? =
      (document.registeredName? key).bind config.responseName? := by
    rw [run.className?_parts, registeredName?]
  rcases hforced : (document.registeredName? key).bind config.responseName? with _ | name
  · rcases hhint : operationNameHint r.metadata with _ | hint
    · simp [Scope.suggestResponse, responseNaming?, responseHint?, hkey, hname, hforced, hhint]
    · simp only [Scope.suggestResponse, responseNaming?, responseHint?, hkey, hname, hforced, hhint,
        run.hasOrigin_iff]
      split <;> rfl
  · simp [Scope.suggestResponse, responseNaming?, hkey, hname, hforced, Suggestions.record]

/-- **The names of a run are those of the document**, in order. -/
lemma suggestions_eq (run : document.Run config parts api statistics) :
    Scope.suggestions ⟨parts.registry, config⟩ document.operations =
      .ofHistory (document.namings config) := by
  rw [namings, Suggestions.ofHistory, List.foldl_flatMap, Scope.suggestions]
  congr 1
  funext s o
  rw [List.foldl_append, List.foldl_flatMap, Scope.suggestNames]
  simp only [run.suggestResponse_eq, List.foldl_flatMap]
  congr 1
  cases o.requestBody with
  | none => rfl
  | some b => exact run.suggestBody_eq b s

lemma name?_eq (run : document.Run config parts api statistics) (key : String) :
    (Scope.suggestions ⟨parts.registry, config⟩ document.operations).name? key =
      (document.override? config key).or (document.suggestion? config key) := by
  rw [run.suggestions_eq, Suggestions.name?_ofHistory]
  rfl

lemma isForced_eq (run : document.Run config parts api statistics) (key : String) :
    (Scope.suggestions ⟨parts.registry, config⟩ document.operations).isForced key =
      (document.override? config key).isSome := by
  rw [run.suggestions_eq, Suggestions.isForced_ofHistory]
  rfl

end Run

end ApiDocument

end ApiTypes
