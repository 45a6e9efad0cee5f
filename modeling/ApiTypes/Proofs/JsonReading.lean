import ApiTypes.Document.Format
import ApiTypes.Proofs.JsonTokens

/-!
# Reading written values

The text of a value is read as the tree of that value.  The tokens of a value, met inside any
containers that are open, put its tree into the innermost of them, so the pass over the tokens
follows the value part by part.  Reading marks only what is nested deeper than is allowed.

* `foldl_tokens` — the tokens of a value supply its tree to the containers around it.
* `Json.depth`, `limited_ofJson` — how deep a value is nested; shallow values are not marked.
* `read_of_readable` — **a written value is read as its tree.**
* `decodeJson_of_readable` — decoding the text of a value is decoding its tree.
-/

namespace ApiTypes.Json

open Source (Fault Tree)
open Source.Tree (ofJson ofJsonItems ofJsonMembers)

/-! ## The tree -/

section

variable {frames : List Frame}

/-- In place of the first item of an array, whatever does not close the array is taken as a
value. -/
lemma step_firstItem {t : Token} (h : t ≠ .closeArray) :
    Reading.step (.within frames .firstItem) t = Reading.step (.within frames .value) t := by
  cases t <;> first | rfl | exact absurd rfl h

/-- No value begins with the end of an array. -/
lemma exists_tokens_eq_cons (j : Json) : ∃ t ts, j.tokens = t :: ts ∧ t ≠ .closeArray := by
  cases j with
  | null => exact ⟨_, _, rfl, by simp⟩
  | bool value => exact ⟨_, _, rfl, by simp⟩
  | number value => exact ⟨_, _, rfl, by simp⟩
  | string text => exact ⟨_, _, rfl, by simp⟩
  | array items => cases items <;> (rw [tokens]; exact ⟨.openArray, _, rfl, by simp⟩)
  | object members => cases members <;> (rw [tokens]; exact ⟨.openObject, _, rfl, by simp⟩)

/-- The tokens of a value supply its tree to the containers around it. -/
def Supplies (j : Json) : Prop :=
  ∀ frames, j.tokens.foldl Reading.step (.within frames .value) = Reading.supply (ofJson j) frames

lemma Supplies.first {j : Json} (h : j.Supplies) (frames : List Frame) :
    j.tokens.foldl Reading.step (.within frames .firstItem) =
      Reading.supply (ofJson j) frames := by
  obtain ⟨t, ts, heq, hne⟩ := exists_tokens_eq_cons j
  have hvalue := h frames
  rw [heq, List.foldl_cons] at hvalue ⊢
  rwa [step_firstItem hne]

lemma foldl_itemTokens {items : List Json} (h : ∀ item ∈ items, item.Supplies)
    (seen : List Tree) :
    (itemTokens items ++ [Token.closeArray]).foldl Reading.step
        (.within (.array seen :: frames) .next) =
      Reading.supply (.sequence (seen.reverse ++ ofJsonItems items) true none) frames := by
  induction items generalizing seen with
  | nil =>
    rw [ofJsonItems, List.append_nil]
    rfl
  | cons item items ih =>
    obtain ⟨hitem, hitems⟩ := List.forall_mem_cons.1 h
    have hcomma : Reading.step (.within (.array seen :: frames) .next) .comma =
        .within (.array seen :: frames) .value := rfl
    rw [itemTokens, List.cons_append, List.cons_append, List.append_assoc, List.foldl_cons, hcomma,
      List.foldl_append, hitem, Reading.supply, ih hitems, ofJsonItems, List.reverse_cons,
      List.append_assoc, List.singleton_append]

lemma foldl_memberTokens {members : List (String × Json)} (h : ∀ e ∈ members, e.2.Supplies)
    (seen : List (Tree × Tree)) :
    (memberTokens members ++ [Token.closeObject]).foldl Reading.step
        (.within (.object seen :: frames) .next) =
      Reading.supply (.mapping (seen.reverse ++ ofJsonMembers members) true none) frames := by
  induction members generalizing seen with
  | nil =>
    rw [ofJsonMembers, List.append_nil]
    rfl
  | cons e members ih =>
    obtain ⟨hvalue, hmembers⟩ := List.forall_mem_cons.1 h
    have hname : [Token.comma, .scalar (.string e.1), .colon].foldl Reading.step
        (.within (.object seen :: frames) .next) =
        .within (.member seen (.scalar (.string e.1)) :: frames) .value := rfl
    have heq : memberTokens (e :: members) ++ [.closeObject] =
        [.comma, .scalar (.string e.1), .colon] ++
          (e.2.tokens ++ (memberTokens members ++ [.closeObject])) := by
      rw [memberTokens]
      simp
    rw [heq, List.foldl_append, hname, List.foldl_append, hvalue, Reading.supply, ih hmembers,
      ofJsonMembers, List.reverse_cons, List.append_assoc, List.singleton_append]

end

/-- **The tokens of a value supply its tree**, whatever containers are open around it. -/
lemma foldl_tokens {j : Json} (h : j.Readable) : j.Supplies := by
  induction h with
  | null => exact fun _ => rfl
  | bool value => exact fun _ => rfl
  | int hfits => exact fun _ => rfl
  | string text => exact fun _ => rfl
  | @array items hitems ih =>
    intro frames
    cases items with
    | nil => rfl
    | cons item items =>
      obtain ⟨hitem, hitems⟩ := List.forall_mem_cons.1 ih
      have hopen : Reading.step (.within frames .value) .openArray =
          .within (.array [] :: frames) .firstItem := rfl
      rw [tokens, List.cons_append, List.cons_append, List.append_assoc, List.foldl_cons, hopen,
        List.foldl_append, hitem.first, Reading.supply, foldl_itemTokens hitems, ofJson,
        ofJsonItems]
      rfl
  | @object members hmembers ih =>
    intro frames
    cases members with
    | nil => rfl
    | cons e members =>
      obtain ⟨hvalue, hmembers⟩ := List.forall_mem_cons.1 ih
      have hname : [Token.openObject, .scalar (.string e.1), .colon].foldl Reading.step
          (.within frames .value) =
          .within (.member [] (.scalar (.string e.1)) :: frames) .value := rfl
      have heq : (Json.object (e :: members)).tokens =
          [.openObject, .scalar (.string e.1), .colon] ++
            (e.2.tokens ++ (memberTokens members ++ [.closeObject])) := by
        rw [tokens]
        simp
      rw [heq, List.foldl_append, hname, List.foldl_append, hvalue, Reading.supply,
        foldl_memberTokens hmembers, ofJson, ofJsonMembers]
      rfl

/-! ## Depth -/

mutual

/-- How many arrays and objects of a value are nested in one another. -/
def depth : Json → Nat
  | .array items => depthItems items + 1
  | .object members => depthMembers members + 1
  | _ => 0

/-- The greatest depth among items. -/
def depthItems : List Json → Nat
  | [] => 0
  | item :: items => max (depth item) (depthItems items)

/-- The greatest depth among the values of members. -/
def depthMembers : List (String × Json) → Nat
  | [] => 0
  | (_, value) :: members => max (depth value) (depthMembers members)

end

lemma depthItems_le {items : List Json} {n : Nat} :
    depthItems items ≤ n ↔ ∀ item ∈ items, item.depth ≤ n := by
  induction items with
  | nil => simp [depthItems]
  | cons item items ih => rw [depthItems, max_le_iff, ih, List.forall_mem_cons]

lemma depthMembers_le {members : List (String × Json)} {n : Nat} :
    depthMembers members ≤ n ↔ ∀ e ∈ members, e.2.depth ≤ n := by
  induction members with
  | nil => simp [depthMembers]
  | cons e members ih => rw [depthMembers, max_le_iff, ih, List.forall_mem_cons]

/-- The items of an array are nested less deep than the array. -/
lemma depth_lt_array {items : List Json} {item : Json} (h : item ∈ items) :
    item.depth < (Json.array items).depth := by
  rw [depth]
  exact Nat.lt_succ_of_le (depthItems_le.1 le_rfl item h)

/-- The value under a name in an object is nested less deep than the object. -/
lemma depth_lt_object (name : String) {value : Json} {members : List (String × Json)}
    (h : (name, value) ∈ members) : value.depth < (Json.object members).depth := by
  rw [depth]
  exact Nat.lt_succ_of_le (depthMembers_le.1 le_rfl _ h)

section

variable {α : Type} {toJson : α → Json} {members : List (String × Json)}

/-- An item of a list under a name in an object is nested less deep than the object. -/
lemma depth_lt_of_item (name : String) {values : List α} {a : α} (ha : a ∈ values)
    (h : (name, Json.arrayOf toJson values) ∈ members) :
    (toJson a).depth < (Json.object members).depth :=
  (depth_lt_array (List.mem_map_of_mem ha)).trans (depth_lt_object name h)

/-- A value in a map under a name in an object is nested less deep than the object. -/
lemma depth_lt_of_entry (name : String) {values : List (String × α)} {e : String × α}
    (he : e ∈ values) (h : (name, Json.objectOf toJson values) ∈ members) :
    (toJson e.2).depth < (Json.object members).depth :=
  (depth_lt_object e.1 (List.mem_map.2 ⟨e, he, rfl⟩)).trans (depth_lt_object name h)

end

/-- A value that is nested no deeper than is allowed is not marked anywhere. -/
lemma limited_ofJson {j : Json} (h : j.Readable) {room : Nat} (hdepth : j.depth ≤ room) :
    (ofJson j).limited room = ofJson j := by
  induction h generalizing room with
  | null => rw [ofJson, Tree.limited]
  | bool value => rw [ofJson, Tree.limited]
  | int hfits => rw [ofJson, Tree.limited]
  | string text => rw [ofJson, Tree.limited]
  | @array items hitems ih =>
    rw [depth] at hdepth
    obtain ⟨room, rfl⟩ : ∃ n, room = n + 1 := ⟨room - 1, by omega⟩
    have hroom := depthItems_le.1 (Nat.le_of_succ_le_succ hdepth)
    rw [ofJson, Tree.limited]
    congr 1
    clear hitems hdepth
    induction items with
    | nil => rfl
    | cons item items ihitems =>
      obtain ⟨hitem, hitems⟩ := List.forall_mem_cons.1 hroom
      rw [ofJsonItems, Tree.limitedItems, ih item List.mem_cons_self hitem,
        ihitems (fun item hmem => ih item (List.mem_cons_of_mem _ hmem)) hitems]
  | @object members hmembers ih =>
    rw [depth] at hdepth
    obtain ⟨room, rfl⟩ : ∃ n, room = n + 1 := ⟨room - 1, by omega⟩
    have hroom := depthMembers_le.1 (Nat.le_of_succ_le_succ hdepth)
    rw [ofJson, Tree.limited]
    congr 1
    clear hmembers hdepth
    induction members with
    | nil => rfl
    | cons e members ihmembers =>
      obtain ⟨hvalue, hmembers⟩ := List.forall_mem_cons.1 hroom
      rw [ofJsonMembers, Tree.limitedMembers, Tree.limited, ih e List.mem_cons_self hvalue,
        ihmembers (fun e hmem => ih e (List.mem_cons_of_mem _ hmem)) hmembers]

/-! ## The text -/

section

variable {j : Json} (h : j.Readable) (hdepth : j.depth ≤ greatestDepth)
include h hdepth

/-- A text with the tokens of a value is read as the tree of that value. -/
lemma read_of_scan {text : String} (htokens : Token.scan text.toList = j.tokens) :
    read text = ⟨ofJson j, none⟩ := by
  have hdeep : readDeep text = ⟨ofJson j, none⟩ := by
    rw [readDeep, htokens, foldl_tokens h]
    rfl
  simp only [read, hdeep, limited_ofJson h hdepth]

/-- **A written value is read as its tree**, on one line or over several. -/
theorem read_of_readable :
    read j.compact = ⟨ofJson j, none⟩ ∧ read j.pretty = ⟨ofJson j, none⟩ :=
  ⟨read_of_scan h hdepth (scan_of_readable h).1, read_of_scan h hdepth (scan_of_readable h).2⟩

/-- Decoding the text of a value is decoding its tree. -/
lemma decodeJson_of_readable {α : Type} (decode : Tree → Except Fault α) :
    Format.decodeJson decode j.compact = decode (ofJson j) ∧
      Format.decodeJson decode j.pretty = decode (ofJson j) := by
  obtain ⟨hcompact, hpretty⟩ := read_of_readable h hdepth
  have hbehind : (do
      let value ← decode (ofJson j)
      Source.check none
      return value) = decode (ofJson j) := by
    cases decode (ofJson j) <;> rfl
  simp only [Format.decodeJson, hcompact, hpretty, hbehind, and_self]

end

end ApiTypes.Json
