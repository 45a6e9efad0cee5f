import ApiTypes.Proofs.JsonReading
import ApiTypes.Proofs.Members

/-!
# Decoding the trees of values

What is decoded from the trees of values that were made from other values.  A record gives back
what it was made from when its members come in the order of its fields, each of them gives back the
part that it stands for, and the fields that are left out stand for what the record starts with.

* `Json.Exact`, `ExactMembers` — free-form values that come back as they were.
* `Decodes` — a value can be written, and another one is decoded from its tree.
* `Decodes.list`, `Decodes.ordered`, `Decodes.distinct`, `decodes_sorted` — collections.
* `Reads` — the members of a record, field by field; `Decodes.record`, `readShape_of_reads` —
  **the record that they are read as**.
-/

namespace ApiTypes

open Source (Fault Scalar Tree)
open Source.Tree (Field ofJson ofJsonItems ofJsonMembers)

/-! ## Free-form values -/

/-- **A free-form value that comes back as it was**: all its numbers are whole, and fit a word, and
no object in it has a name twice. -/
inductive Json.Exact : Json → Prop where
  | null : Exact .null
  | bool (value : Bool) : Exact (.bool value)
  | int {value : Int} (h : Scalar.fitsWord value = true) : Exact (.number (.int value))
  | string (text : String) : Exact (.string text)
  | array {items : List Json} (h : ∀ item ∈ items, Exact item) : Exact (.array items)
  | object {members : List (String × Json)} (hnames : (Members.names members).Nodup)
      (h : ∀ e ∈ members, Exact e.2) : Exact (.object members)

/-- Free-form values in the order of their names that come back as they were. -/
structure ExactMembers (members : List (String × Json)) : Prop where
  sorted : (Members.names members).Pairwise (· < ·)
  exact : ∀ e ∈ members, e.2.Exact

mutual

/-- Whether a free-form value comes back as it was. -/
def Json.isExact : Json → Bool
  | .number (.int value) => Scalar.fitsWord value
  | .number (.float _) => false
  | .array items => allExact items
  | .object members => (Members.names members).Nodup && membersExact members
  | _ => true

/-- `isExact` for each of several values. -/
def Json.allExact : List Json → Bool
  | [] => true
  | item :: items => item.isExact && allExact items

/-- `isExact` for the values of members. -/
def Json.membersExact : List (String × Json) → Bool
  | [] => true
  | (_, value) :: members => value.isExact && membersExact members

end

mutual

lemma Json.exact_of_isExact : ∀ {j : Json}, j.isExact = true → j.Exact
  | .null, _ => .null
  | .bool value, _ => .bool value
  | .number (.int _), h => .int h
  | .string text, _ => .string text
  | .array _, h => .array (exact_of_allExact h)
  | .object _, h => by
    rw [isExact, Bool.and_eq_true, decide_eq_true_eq] at h
    exact .object h.1 (exact_of_membersExact h.2)

lemma Json.exact_of_allExact : ∀ {items : List Json}, allExact items = true →
    ∀ item ∈ items, item.Exact
  | [], _ => nofun
  | _ :: _, h => by
    rw [allExact, Bool.and_eq_true] at h
    exact List.forall_mem_cons.2 ⟨exact_of_isExact h.1, exact_of_allExact h.2⟩

lemma Json.exact_of_membersExact : ∀ {members : List (String × Json)},
    membersExact members = true → ∀ e ∈ members, e.2.Exact
  | [], _ => nofun
  | _ :: _, h => by
    rw [membersExact, Bool.and_eq_true] at h
    exact List.forall_mem_cons.2 ⟨exact_of_isExact h.1, exact_of_membersExact h.2⟩

end

lemma Json.allExact_iff {items : List Json} :
    allExact items = true ↔ ∀ item ∈ items, item.isExact = true := by
  induction items with
  | nil => simp [allExact]
  | cons item items ih => rw [allExact, Bool.and_eq_true, ih, List.forall_mem_cons]

lemma Json.membersExact_iff {members : List (String × Json)} :
    membersExact members = true ↔ ∀ e ∈ members, e.2.isExact = true := by
  induction members with
  | nil => simp [membersExact]
  | cons e members ih => rw [membersExact, Bool.and_eq_true, ih, List.forall_mem_cons]

lemma Json.isExact_of_exact {j : Json} (h : j.Exact) : j.isExact = true := by
  induction h with
  | null => rfl
  | bool value => rfl
  | int hfits => exact hfits
  | string text => rfl
  | array _ ih =>
    rw [isExact]
    exact allExact_iff.2 ih
  | object hnames _ ih =>
    rw [isExact, Bool.and_eq_true, decide_eq_true_eq]
    exact ⟨hnames, membersExact_iff.2 ih⟩

instance (j : Json) : Decidable j.Exact :=
  decidable_of_iff (j.isExact = true) ⟨Json.exact_of_isExact, Json.isExact_of_exact⟩

instance (members : List (String × Json)) : Decidable (ExactMembers members) :=
  decidable_of_iff
    ((Members.names members).Pairwise (· < ·) ∧ ∀ e ∈ members, e.2.Exact)
    ⟨fun h => ⟨h.1, h.2⟩, fun h => ⟨h.sorted, h.exact⟩⟩

lemma Json.Exact.readable {j : Json} (h : j.Exact) : j.Readable := by
  induction h with
  | null => exact .null
  | bool value => exact .bool value
  | int hfits => exact .int hfits
  | string text => exact .string text
  | array _ ih => exact .array ih
  | object _ _ ih => exact .object ih

lemma exactMembers_nil : ExactMembers [] :=
  ⟨.nil, nofun⟩

/-- A count that is less than the number of words fits a word. -/
lemma Source.Scalar.fitsWord_natCast {n : Nat} (h : n < UInt64.size) :
    fitsWord (n : Int) = true := by
  have hleast : Int64.minValue.toInt ≤ 0 := by decide
  rw [fitsWord, Bool.and_eq_true, decide_eq_true_eq, decide_eq_true_eq]
  exact ⟨hleast.trans (Int.natCast_nonneg n), Int.ofNat_lt.2 h⟩

namespace Source.Tree

variable {α β σ : Type}

lemma ofJsonItems_eq_map (items : List Json) : ofJsonItems items = items.map ofJson := by
  induction items with
  | nil => rfl
  | cons item items ih => rw [ofJsonItems, ih, List.map_cons]

lemma ofJsonMembers_eq_map (members : List (String × Json)) :
    ofJsonMembers members =
      members.map fun e => (.scalar (.string e.1), ofJson e.2) := by
  induction members with
  | nil => rfl
  | cons e members ih => rw [ofJsonMembers, ih, List.map_cons]

lemma jsonItems_ofJson {items : List Json} (h : ∀ item ∈ items, (ofJson item).json = .ok item) :
    jsonItems (ofJsonItems items) = .ok items := by
  induction items with
  | nil => rfl
  | cons item items ih =>
    obtain ⟨hitem, hitems⟩ := List.forall_mem_cons.1 h
    rw [ofJsonItems, jsonItems, hitem, ih hitems]
    rfl

lemma jsonMembers_ofJson {members found : List (String × Json)}
    (hnames : (Members.names found ++ Members.names members).Nodup)
    (h : ∀ e ∈ members, (ofJson e.2).json = .ok e.2) :
    jsonMembers (ofJsonMembers members) found = .ok (found ++ members) := by
  have hfold : ∀ found, jsonMembers (ofJsonMembers members) found =
      .ok (members.foldl (fun found e => Members.put found e.1 e.2) found) := by
    clear hnames
    induction members with
    | nil => exact fun found => rfl
    | cons e members ih =>
      obtain ⟨hvalue, hmembers⟩ := List.forall_mem_cons.1 h
      intro found
      rw [ofJsonMembers, jsonMembers, string, hvalue, List.foldl_cons, ← ih hmembers]
      rfl
  rw [hfold, Members.foldl_put hnames]

/-- The value of the tree of a free-form value. -/
lemma json_ofJson {j : Json} (h : j.Exact) : (ofJson j).json = .ok j := by
  induction h with
  | null => rfl
  | bool value => rfl
  | int hfits => rw [ofJson, json, Scalar.json, if_pos hfits]
  | string text => rfl
  | array _ ih =>
    rw [ofJson, json, jsonItems_ofJson ih]
    rfl
  | object hnames _ ih =>
    rw [ofJson, json, jsonMembers_ofJson (by simpa [Members.names] using hnames) ih]
    rfl

/-- Reading the tree of a value whole changes nothing in it. -/
lemma settled_ofJson {j : Json} (h : j.Readable) : (ofJson j).settled = .ok (ofJson j) := by
  induction h with
  | null => rfl
  | bool value => rfl
  | int hfits =>
    rw [ofJson, settled, Scalar.json, if_pos hfits]
    rfl
  | string text => rfl
  | @array items hitems ih =>
    clear hitems
    have hitems : settledItems (ofJsonItems items) = .ok (ofJsonItems items) := by
      induction items with
      | nil => rfl
      | cons item items ihitems =>
        obtain ⟨hitem, hitems⟩ := List.forall_mem_cons.1 ih
        rw [ofJsonItems, settledItems, hitem, ihitems hitems]
        rfl
    rw [ofJson, settled, hitems]
    rfl
  | @object members hmembers ih =>
    clear hmembers
    have hmembers : settledMembers (ofJsonMembers members) = .ok (ofJsonMembers members) := by
      induction members with
      | nil => rfl
      | cons e members ihmembers =>
        obtain ⟨hvalue, hmembers⟩ := List.forall_mem_cons.1 ih
        rw [ofJsonMembers, settledMembers, settled, hvalue, ihmembers hmembers]
        rfl
    rw [ofJson, settled, hmembers]
    rfl

/-! ## Single values -/

/-- **A value that can be written without loss, and what is decoded from its tree.** -/
structure Decodes (decode : Tree → Except Fault α) (j : Json) (a : α) : Prop where
  readable : j.Readable
  decoded : decode (ofJson j) = .ok a

variable {decode : Tree → Except Fault α} {j : Json} {a : α}

lemma Decodes.bind {f : α → Except Fault β} {b : β} (h : Decodes decode j a) (hf : f a = .ok b) :
    Decodes (fun tree => decode tree >>= f) j b :=
  ⟨h.readable, by rw [h.decoded]; exact hf⟩

lemma decodes_string (text : String) : Decodes string (.string text) text :=
  ⟨.string text, rfl⟩

lemma decodes_bool (value : Bool) : Decodes bool (.bool value) value :=
  ⟨.bool value, rfl⟩

lemma decodes_signedWord (value : Int64) :
    Decodes signedWord (.number (.int value.toInt)) value := by
  have hgreatest : Int64.maxValue.toInt < UInt64.size := by decide
  have hfits :
      (Int64.minValue.toInt ≤ value.toInt && value.toInt ≤ Int64.maxValue.toInt) = true := by
    simp only [Bool.and_eq_true, decide_eq_true_eq]
    exact ⟨value.minValue_le_toInt, value.toInt_le⟩
  refine ⟨.int ?_, ?_⟩
  · rw [Scalar.fitsWord, Bool.and_eq_true, decide_eq_true_eq, decide_eq_true_eq]
    exact ⟨value.minValue_le_toInt, lt_of_le_of_lt value.toInt_le hgreatest⟩
  · rw [signedWord, ofJson, wholeNumber, if_pos hfits]
    exact congrArg Except.ok (Int64.ofInt_toInt value)

lemma decodes_natWord {n : Nat} (h : n < UInt64.size) : Decodes natWord (.ofNat n) n := by
  have hfits : (decide (0 ≤ (n : Int)) && decide ((n : Int) < UInt64.size)) = true := by
    simp only [Bool.and_eq_true, decide_eq_true_eq]
    exact ⟨Int.natCast_nonneg n, Int.ofNat_lt.2 h⟩
  refine ⟨.int (Scalar.fitsWord_natCast h), ?_⟩
  rw [natWord, Json.ofNat, ofJson, wholeNumber, if_pos hfits]
  rfl

/-- A name that stands for a possibility, wherever one of several is wanted. -/
lemma decodes_choice {known : List (String × α)} {name : String} (h : pick known name = .ok a) :
    Decodes (choice known) (.string name) a ∧ Decodes (settledChoice known) (.string name) a :=
  ⟨⟨.string name, h⟩, ⟨.string name, h⟩⟩

lemma Decodes.some (h : Decodes decode j a) (hthere : (ofJson j).isNothing = false) :
    Decodes (option decode) j (.some a) :=
  ⟨h.readable, by rw [option, hthere, h.decoded]; rfl⟩

lemma Decodes.orNull {toJson : α → Json} {o : Option α}
    (h : ∀ a ∈ o, Decodes decode (toJson a) a)
    (hthere : ∀ a ∈ o, (ofJson (toJson a)).isNothing = false) :
    Decodes (option decode) (Json.orNull toJson o) o := by
  cases o with
  | none => exact ⟨.null, rfl⟩
  | some a => exact (h a rfl).some (hthere a rfl)

/-! ## Collections -/

lemma Decodes.list {toJson : α → Json} {values : List α}
    (h : ∀ a ∈ values, Decodes decode (toJson a) a) :
    Decodes (list decode) (.arrayOf toJson values) values := by
  have hmap : ((values.map toJson).map ofJson).mapM decode = Except.ok values := by
    induction values with
    | nil => rfl
    | cons a values ih =>
      obtain ⟨ha, hvalues⟩ := List.forall_mem_cons.1 h
      rw [List.map_cons, List.map_cons, List.mapM_cons, ha.decoded, ih hvalues]
      rfl
  refine ⟨.array ?_, ?_⟩
  · rw [List.forall_mem_map]
    exact fun a ha => (h a ha).readable
  · rw [Json.arrayOf, ofJson, ofJsonItems_eq_map, Tree.list]
    simp only [items, pure_bind, hmap]
    rfl

/-- Free-form values, in order. -/
lemma decodes_items {values : List Json} (h : ∀ value ∈ values, value.Exact) :
    Decodes (list json) (.array values) values := by
  have hlist : Decodes (list json) (.arrayOf id values) values := Decodes.list
    fun value hvalue => ⟨(h value hvalue).readable, json_ofJson (h value hvalue)⟩
  rwa [Json.arrayOf, List.map_id] at hlist

lemma gather_ofJson {add : List (String × α) → String → α → List (String × α)}
    {toJson : α → Json} {values : List (String × α)}
    (h : ∀ e ∈ values, Decodes decode (toJson e.2) e.2) (found : List (String × α)) :
    gather add decode (ofJsonMembers (values.map fun e => (e.1, toJson e.2))) found =
      .ok (values.foldl (fun found e => add found e.1 e.2) found) := by
  induction values generalizing found with
  | nil => rfl
  | cons e values ih =>
    obtain ⟨hvalue, hvalues⟩ := List.forall_mem_cons.1 h
    rw [List.map_cons, ofJsonMembers, gather, string, hvalue.decoded, List.foldl_cons,
      ← ih hvalues]
    rfl

lemma readable_objectOf {toJson : α → Json} {values : List (String × α)}
    (h : ∀ e ∈ values, Decodes decode (toJson e.2) e.2) :
    (Json.objectOf toJson values).Readable := by
  refine .object ?_
  rw [List.forall_mem_map]
  exact fun e he => (h e he).readable

/-- Named values in their own order. -/
lemma Decodes.ordered {toJson : α → Json} {values : List (String × α)}
    (hnames : (Members.names values).Nodup)
    (h : ∀ e ∈ values, Decodes decode (toJson e.2) e.2) :
    Decodes (ordered decode) (.objectOf toJson values) values := by
  refine ⟨readable_objectOf h, ?_⟩
  have hfold : values.foldl (fun found e => Members.put found e.1 e.2) [] = [] ++ values :=
    Members.foldl_put (by simpa [Members.names])
  rw [Json.objectOf, ofJson, Tree.ordered]
  simp only [members, pure_bind, gather_ofJson h, hfold]
  rfl

/-- Named values in their own order, with the proof that their names are distinct. -/
lemma Decodes.distinct {toJson : α → Json} {values : List (String × α)}
    (hnames : (Members.names values).Nodup) (h : ∀ e ∈ values, Decodes decode (toJson e.2) e.2) :
    Decodes (distinct decode) (.objectOf toJson values) ⟨values, hnames⟩ := by
  obtain ⟨hreadable, hdecoded⟩ := Decodes.ordered hnames h
  refine ⟨hreadable, ?_⟩
  rw [Tree.distinct.eq_def]
  split
  · rename_i found hfound
    obtain rfl := Except.ok.inj (hfound.symm.trans hdecoded)
    rfl
  · rename_i fault hfault
    cases hfault.symm.trans hdecoded

/-- **Free-form values in the order of their names.** -/
lemma decodes_sorted {values : List (String × Json)} (h : ExactMembers values) :
    Decodes (sorted json) (.object values) values := by
  have hvalues : ∀ e ∈ values, Decodes json (id e.2) e.2 := fun e he =>
    ⟨(h.exact e he).readable, json_ofJson (h.exact e he)⟩
  have hobject : Json.objectOf id values = .object values := by
    rw [Json.objectOf]
    congr 1
    exact List.map_id values
  have hfold : values.foldl (fun found e => Members.insert found e.1 e.2) [] = [] ++ values :=
    Members.foldl_insert h.sorted
  refine ⟨hobject ▸ readable_objectOf hvalues, ?_⟩
  rw [← hobject, Json.objectOf, ofJson, Tree.sorted]
  simp only [members, pure_bind, gather_ofJson hvalues, hfold]
  rfl

/-! ## Records -/

/-- **The members of a record, in the order of its fields**: what the record becomes when each of
them is read in turn.  Fields that have no member leave it as it is. -/
inductive Reads (read : String → Tree → σ → Except Fault σ) :
    List Field → List (String × Json) → σ → σ → Prop where
  | done {s : σ} : Reads read [] [] s s
  | absent {field : Field} {fields : List Field} {members : List (String × Json)} {s s' : σ}
      (h : Reads read fields members s s') : Reads read (field :: fields) members s s'
  | present {field : Field} {fields : List Field} {members : List (String × Json)} {value : Json}
      {s next s' : σ} (hreadable : value.Readable)
      (hread : read field.name (ofJson value) s = .ok next)
      (h : Reads read fields members next s') :
      Reads read (field :: fields) ((field.name, value) :: members) s s'

section

variable {read : String → Tree → σ → Except Fault σ} {field : Field} {fields : List Field}
variable {members : List (String × Json)} {s s' : σ}

namespace Reads

/-- A field that is always written. -/
lemma member {put : α → σ}
    (hread : ∀ tree, read field.name tree s = decode tree >>= fun a => .ok (put a))
    (hdecodes : Decodes decode j a) (h : Reads read fields members (put a) s') :
    Reads read (field :: fields) ((field.name, j) :: members) s s' :=
  .present hdecodes.readable (by rw [hread, hdecodes.decoded]; rfl) h

/-- A field that is written when there is a value. -/
lemma memberIf {put : Option α → σ} {toJson : α → Json} {o : Option α}
    (hread : ∀ tree, read field.name tree s = option decode tree >>= fun o => .ok (put o))
    (hsame : put none = s) (hdecodes : ∀ a ∈ o, Decodes decode (toJson a) a)
    (hthere : ∀ a ∈ o, (ofJson (toJson a)).isNothing = false)
    (h : Reads read fields members (put o) s') :
    Reads read (field :: fields) (Json.memberIf field.name toJson o ++ members) s s' := by
  cases o with
  | none =>
    rw [hsame] at h
    exact .absent h
  | some a => exact .member hread ((hdecodes a rfl).some (hthere a rfl)) h

/-- A list that is left out when it is empty. -/
lemma memberUnlessEmpty {put : List α → σ} {decode : Tree → Except Fault (List α)} {values : List α}
    (hread : ∀ tree, read field.name tree s = decode tree >>= fun a => .ok (put a))
    (hsame : put [] = s) (hdecodes : Decodes decode j values)
    (h : Reads read fields members (put values) s') :
    Reads read (field :: fields)
      ((if values.isEmpty then [] else [(field.name, j)]) ++ members) s s' := by
  cases values with
  | nil =>
    rw [hsame] at h
    exact .absent h
  | cons a values => exact .member hread hdecodes h

/-- A truth value that is written when it is true. -/
lemma memberWhen {put : Bool → σ} {flag : Bool}
    (hread : ∀ tree, read field.name tree s = bool tree >>= fun a => .ok (put a))
    (hsame : put false = s) (h : Reads read fields members (put flag) s') :
    Reads read (field :: fields)
      ((if flag then [(field.name, .bool true)] else []) ++ members) s s' := by
  cases flag with
  | false =>
    rw [hsame] at h
    exact .absent h
  | true => exact .member hread (decodes_bool true) h

lemma readable (h : Reads read fields members s s') : ∀ e ∈ members, e.2.Readable := by
  induction h with
  | done => exact nofun
  | absent _ ih => exact ih
  | present hreadable _ _ ih => exact List.forall_mem_cons.2 ⟨hreadable, ih⟩

lemma names (h : Reads read fields members s s') :
    ∀ e ∈ members, e.1 ∈ fields.map Field.name := by
  induction h with
  | done => exact nofun
  | absent _ ih => exact fun e he => List.mem_cons_of_mem _ (ih e he)
  | present _ _ _ ih =>
    rw [List.map_cons]
    exact List.forall_mem_cons.2 ⟨List.mem_cons_self, fun e he => List.mem_cons_of_mem _ (ih e he)⟩

/-- Members in the order of the fields are read one after the other. -/
lemma readMembers {all : List Field} {seen : List String} (h : Reads read fields members s s')
    (hall : ∀ f ∈ fields, f ∈ all) (hnames : (fields.map Field.name).Nodup)
    (hseen : ∀ f ∈ fields, f.name ∉ seen) :
    Tree.readMembers all read (ofJsonMembers members) seen s = .ok s' := by
  induction h generalizing seen with
  | done => rfl
  | absent _ ih =>
    exact ih (List.forall_mem_cons.1 hall).2 (List.nodup_cons.1 hnames).2
      (List.forall_mem_cons.1 hseen).2
  | @present field fields members value s next s' hreadable hread _ ih =>
    obtain ⟨hfield, hall⟩ := List.forall_mem_cons.1 hall
    obtain ⟨hfresh, hseen⟩ := List.forall_mem_cons.1 hseen
    obtain ⟨hname, hnames⟩ := List.nodup_cons.1 hnames
    have hknown : (all.any fun f => f.name == field.name) = true :=
      List.any_eq_true.2 ⟨field, hfield, by simp⟩
    have hrest : ∀ f ∈ fields, f.name ∉ field.name :: seen := by
      intro f hf hmem
      rcases List.mem_cons.1 hmem with heq | hmem
      · exact hname (List.mem_map.2 ⟨f, hf, heq⟩)
      · exact hseen f hf hmem
    have hnext := ih hall hnames hrest
    have hseen : seen.contains field.name = false := by simpa using hfresh
    rw [ofJsonMembers, Tree.readMembers]
    simp only [fieldName, pure_bind, hknown, hseen, hread, if_true, Bool.false_eq_true, if_false]
    exact hnext

end Reads

/-- **What a record is read as**, when its members come in the order of its fields. -/
theorem Decodes.record (type : String) (hnames : (fields.map Field.name).Nodup)
    (h : Reads read fields members s s') :
    Decodes (record type fields read s) (.object members) s' := by
  have hmembers : Tree.readMembers fields read (ofJsonMembers members) [] s = .ok s' :=
    h.readMembers (fun f hf => hf) hnames (by simp)
  refine ⟨.object h.readable, ?_⟩
  rw [ofJson, Tree.record]
  · simp only [Tree.members, pure_bind, hmembers]
    rfl
  · simp
  · simp

end

end Source.Tree

/-- The parts of a shape, when its members come in the order of its fields. -/
lemma readShape_of_reads {σ : Type} {read : String → Tree → σ → Except Fault σ}
    {fields : List String} {members : List (String × Json)} {s s' : σ} (hnames : fields.Nodup)
    (h : Tree.Reads read (fields.map Field.optionally) members s s') :
    readShape fields read (ofJsonMembers members) s = .ok s' := by
  refine h.readMembers (fun f hf => hf) ?_ (by simp)
  rw [List.map_map]
  exact (List.map_id fields).symm ▸ hnames

end ApiTypes
