import ApiTypes.Proofs.ClassName
import ApiTypes.Proofs.Leaves
import ApiTypes.Proofs.ReferenceIntegrity
import Mathlib.Data.List.Chain

/-!
# When types count as the same

Types are compared by their names, without blanks and without the qualifier of models.  For the
types that a run makes this tells apart what is built differently: what stands before the name of a
leaf cannot be taken for the beginning of such a name, so the containers can be read off one by one,
and the names of leaves differ because class names are legal and belong to one model each.  There is
one exception.  A text of bytes has the name of a list, and counts as one.

* `TypeDescriptor.build` — the containers and the leaf that a type is built of.
* `wrapped` — the text of a name; `wrapped_injective` — what it is built of can be read off it.
* `removeAll_eq_self` — there is no qualifier in it.
* `Unambiguous` — class names that are legal and belong to one key each.
* `Current.reference_eq_some_iff`, `Current.isDisplayable_iff` — what else this tells of a type.
* `Current.sameType_iff` — **types count as the same when they are built of the same.**
-/

namespace ApiTypes

open Text (isBlank)

/-! ## What types are built of -/

/-- What stands at the leaf of a type. -/
inductive Atom where
  | primitive (p : Primitive)
  | model (key : String)
  deriving DecidableEq

namespace TypeDescriptor

/-- What a type without containers is. -/
def atom (t : TypeDescriptor) : Atom :=
  match t.reference with
  | some key => .model key
  | none => .primitive ((Primitive.ofName? t.name).getD .value)

/-- **What a type is built of**: which of its containers are maps, from outside in, and its leaf.  A
text of bytes is a list of bytes. -/
def build (t : TypeDescriptor) : List Bool × Atom :=
  match t.leaf.atom with
  | .primitive .bytes => (t.nesting ++ [false], .primitive (.integer .unsigned .bits8))
  | atom => (t.nesting, atom)

end TypeDescriptor

/-- Class names that are legal and belong to one key each. -/
structure Unambiguous (classNames : String → Option String) : Prop where
  legal : ∀ {key className}, classNames key = some className → Name.Legal className
  injective : ∀ {key key' className}, classNames key = some className →
    classNames key' = some className → key = key'

/-- The class names in a registry are so. -/
lemma Registry.Consistent.unambiguous {r : Registry} (h : r.Consistent) (hlegal : r.LegalNames) :
    Unambiguous r.className? where
  legal hname := by
    obtain ⟨m, hm, rfl⟩ := className?_eq_some.1 hname
    exact hlegal _ (Members.mem_of_get? hm)
  injective hname hname' := by
    obtain ⟨m, hm, rfl⟩ := className?_eq_some.1 hname
    obtain ⟨m', hm', heq⟩ := className?_eq_some.1 hname'
    exact congrArg Prod.fst
      (h.eq_of_className_eq (Members.mem_of_get? hm) (Members.mem_of_get? hm') heq.symm)

/-! ## The texts of names -/

/-- What stands before the inner type in the name of a container. -/
def opening : (isMap : Bool) → List Char
  | true => "HashMap<String,".toList
  | false => "Vec<".toList

/-- The text of containers around a leaf. -/
def wrapped : (nesting : List Bool) → (leaf : List Char) → List Char
  | [], leaf => leaf
  | isMap :: nesting, leaf => opening isMap ++ wrapped nesting leaf ++ ['>']

lemma wrapped_append (nesting inner : List Bool) (leaf : List Char) :
    wrapped (nesting ++ inner) leaf = wrapped nesting (wrapped inner leaf) := by
  induction nesting with
  | nil => rfl
  | cons isMap nesting ih => rw [List.cons_append, wrapped, wrapped, ih]

/-- Three texts without their blanks, one after another. -/
lemma filter_around {start inner close : String} {opened between closed : List Char}
    (hstart : start.toList.filter (fun c => !isBlank c) = opened)
    (hinner : inner.toList.filter (fun c => !isBlank c) = between)
    (hclose : close.toList.filter (fun c => !isBlank c) = closed) :
    (start ++ inner ++ close).toList.filter (fun c => !isBlank c) =
      opened ++ between ++ closed := by
  rw [String.toList_append, String.toList_append, List.filter_append, List.filter_append, hstart,
    hinner, hclose]

lemma filter_nestedName (nesting : List Bool) (leaf : String) :
    (TypeDescriptor.nestedName nesting leaf).toList.filter (fun c => !isBlank c) =
      wrapped nesting (leaf.toList.filter fun c => !isBlank c) := by
  induction nesting with
  | nil => rfl
  | cons isMap nesting ih =>
    have hclose : ">".toList.filter (fun c => !isBlank c) = ['>'] := by
      decide +kernel
    cases isMap with
    | true =>
      have hstart : "HashMap<String, ".toList.filter (fun c => !isBlank c) = opening true := by
        decide +kernel
      exact filter_around hstart ih hclose
    | false =>
      have hstart : "Vec<".toList.filter (fun c => !isBlank c) = opening false := by
        decide +kernel
      exact filter_around hstart ih hclose

/-! ### Reading containers off a text -/

/-- A text that begins like no container. -/
def Unopened (leaf : List Char) : Prop :=
  ∀ isMap, ¬ opening isMap <+: leaf

/-- Containers begin differently. -/
lemma opening_inj {isMap isMap' : Bool} {cs cs' : List Char}
    (h : opening isMap ++ cs = opening isMap' ++ cs') : isMap = isMap' ∧ cs = cs' := by
  cases isMap <;> cases isMap'
  · exact ⟨rfl, List.append_cancel_left h⟩
  · cases (List.cons.inj h).1
  · cases (List.cons.inj h).1
  · exact ⟨rfl, List.append_cancel_left h⟩

/-- **The containers and the leaf can be read off a text.** -/
theorem wrapped_injective {nesting nesting' : List Bool} {leaf leaf' : List Char}
    (hleaf : Unopened leaf) (hleaf' : Unopened leaf')
    (h : wrapped nesting leaf = wrapped nesting' leaf') : nesting = nesting' ∧ leaf = leaf' := by
  induction nesting generalizing nesting' with
  | nil =>
    cases nesting' with
    | nil => exact ⟨rfl, h⟩
    | cons isMap' nesting' =>
      refine absurd ?_ (hleaf isMap')
      rw [wrapped, wrapped, List.append_assoc] at h
      exact ⟨_, h.symm⟩
  | cons isMap nesting ih =>
    cases nesting' with
    | nil =>
      refine absurd ?_ (hleaf' isMap)
      rw [wrapped, wrapped, List.append_assoc] at h
      exact ⟨_, h⟩
    | cons isMap' nesting' =>
      rw [wrapped, wrapped, List.append_assoc, List.append_assoc] at h
      obtain ⟨rfl, hrest⟩ := opening_inj h
      obtain ⟨rfl, rfl⟩ := ih (List.append_cancel_right hrest)
      exact ⟨rfl, rfl⟩

/-! ### No qualifiers -/

/-- A text in which no colon follows an `s`, as it does in the qualifier of models. -/
def Unqualified (cs : List Char) : Prop :=
  cs.IsChain fun a b => a ≠ 's' ∨ b ≠ ':'

instance (cs : List Char) : Decidable (Unqualified cs) :=
  inferInstanceAs (Decidable (cs.IsChain _))

lemma removeAll_eq_self {cs : List Char} (h : Unqualified cs) :
    TypeDescriptor.removeAll "models::".toList cs = cs := by
  induction cs with
  | nil => rw [TypeDescriptor.removeAll]
  | cons c cs ih =>
    have hnot : "models::".toList.isPrefixOf (c :: cs) = false := by
      rw [Bool.eq_false_iff]
      intro hstart
      obtain ⟨rest, heq⟩ := List.isPrefixOf_iff_prefix.1 hstart
      have hparts : Unqualified (['m', 'o', 'd', 'e', 'l'] ++ 's' :: ':' :: ':' :: rest) :=
        heq ▸ h
      have hqualifier := (List.isChain_append.1 hparts).2.1
      simp at hqualifier
    rw [TypeDescriptor.removeAll, hnot, Bool.false_and, if_neg Bool.false_ne_true,
      ih h.tail]

lemma wrapped_unqualified (nesting : List Bool) {leaf : List Char} (h : Unqualified leaf) :
    Unqualified (wrapped nesting leaf) := by
  induction nesting with
  | nil => exact h
  | cons isMap nesting ih =>
    have hopening : Unqualified (opening isMap) := by
      cases isMap <;> decide
    have hlast : (opening isMap).getLast?.all (· ≠ 's') = true := by
      cases isMap <;> decide
    have hlast : ∀ a ∈ (opening isMap).getLast?, a ≠ 's' := fun a ha =>
      of_decide_eq_true ((Option.all_eq_true _ _).1 hlast a ha)
    refine List.IsChain.append (hopening.append ih fun a ha b _ => Or.inl (hlast a ha))
      (List.isChain_singleton _) fun a _ b hb => Or.inr ?_
    obtain rfl := Option.some.inj hb
    decide

/-! ## The texts of leaves -/

/-- A text without blanks and qualifiers. -/
structure Bare (cs : List Char) : Prop where
  filter_eq : cs.filter (fun c => !isBlank c) = cs
  unqualified : Unqualified cs

lemma bare_primitive (p : Primitive) : Bare p.name.toList := by
  have hall : ∀ p ∈ Primitive.all, p.name.toList.filter (fun c => !isBlank c) = p.name.toList ∧
      Unqualified p.name.toList := by
    decide +kernel
  exact ⟨(hall p p.mem_all).1, (hall p p.mem_all).2⟩

lemma unopened_primitive {p : Primitive} (hp : p ≠ .bytes) : Unopened p.name.toList := by
  have hall : ∀ p ∈ Primitive.all, p ≠ .bytes → ∀ isMap,
      (opening isMap).isPrefixOf p.name.toList = false := by
    decide +kernel
  intro isMap hstart
  rw [← List.isPrefixOf_iff_prefix, hall p p.mem_all hp isMap] at hstart
  cases hstart

section

variable {name : String} (h : Name.Legal name)

include h

lemma bare_of_legal : Bare name.toList := by
  have hchars : ∀ c ∈ name.toList, isBlank c = false ∧ c ≠ ':' := fun c hc =>
    Name.alphanum_forall (P := fun c => c.isAlphanum → isBlank c = false ∧ c ≠ ':')
      (by decide +kernel) (h.isAlphanum c hc) (h.isAlphanum c hc)
  constructor
  · exact List.filter_eq_self.2 fun c hc => by rw [(hchars c hc).1]; rfl
  · exact (List.pairwise_of_forall_mem_list fun a _ b hb => Or.inr (hchars b hb).2).isChain

lemma unopened_of_legal : Unopened name.toList := by
  intro isMap hstart
  have hmem : '<' ∈ opening isMap := by
    cases isMap <;> decide
  exact absurd (h.isAlphanum _ (hstart.subset hmem)) (by decide)

/-- No model is called like a primitive type: such names are reserved, or begin with a small letter,
or have brackets. -/
lemma ne_primitive_of_legal (p : Primitive) : name ≠ p.name := by
  have hall : ∀ p ∈ Primitive.all, Name.isReservedTypeName p.name = true ∨
      p.name.toList.head?.any (!·.isUpper) = true ∨ p.name.toList.any (!·.isAlphanum) = true := by
    decide +kernel
  rintro rfl
  rcases hall p p.mem_all with hreserved | hsmall | hother
  · exact h.ne_reserved hreserved rfl
  · obtain ⟨c, rest, hname, hc, -⟩ := h.pascal
    rw [hname, List.head?_cons, Option.any_some, hc] at hsmall
    cases hsmall
  · obtain ⟨c, hc, hother⟩ := List.any_eq_true.1 hother
    rw [h.isAlphanum c hc] at hother
    cases hother

end

/-! ## Types that count as the same -/

variable {classNames classNames' : String → Option String}

namespace Atom

/-- The text of a leaf. -/
def text (classNames : String → Option String) : Atom → List Char
  | .primitive p => p.name.toList
  | .model key => ((classNames key).getD "").toList

/-- A leaf that a type can be built of: a model that has a class name, or a primitive type but for a
text of bytes, which is a list. -/
inductive Known (classNames : String → Option String) : Atom → Prop where
  | primitive {p : Primitive} (h : p ≠ .bytes) : Known classNames (.primitive p)
  | model {key className : String} (h : classNames key = some className) :
      Known classNames (.model key)

variable {a b : Atom}

lemma Known.unopened (hnames : Unambiguous classNames) (ha : a.Known classNames) :
    Unopened (a.text classNames) := by
  cases ha with
  | primitive h => exact unopened_primitive h
  | model h =>
    rw [text, h]
    exact unopened_of_legal (hnames.legal h)

/-- Leaves are told apart by their texts. -/
lemma Known.eq_of_text_eq (hnames : Unambiguous classNames) (ha : a.Known classNames)
    (hb : b.Known classNames) (h : a.text classNames = b.text classNames) : a = b := by
  cases ha with
  | @primitive p hp =>
    cases hb with
    | @primitive q hq => rw [Primitive.name_injective (String.toList_inj.1 h)]
    | model hname =>
      rw [text, text, hname] at h
      exact absurd (String.toList_inj.1 h).symm (ne_primitive_of_legal (hnames.legal hname) p)
  | model hname =>
    cases hb with
    | @primitive q hq =>
      rw [text, text, hname] at h
      exact absurd (String.toList_inj.1 h) (ne_primitive_of_legal (hnames.legal hname) q)
    | model hname' =>
      rw [text, text, hname, hname'] at h
      obtain rfl := String.toList_inj.1 h
      rw [hnames.injective hname hname']

end Atom

namespace TypeDescriptor

variable {t u : TypeDescriptor}

lemma build_of_primitive {p : Primitive} (hleaf : t.leaf.atom = .primitive p) (hp : p ≠ .bytes) :
    t.build = (t.nesting, .primitive p) := by
  rw [build, hleaf]
  split
  · rename_i hbytes
    exact absurd (Atom.primitive.inj hbytes) hp
  · rfl

lemma build_of_model {key : String} (hleaf : t.leaf.atom = .model key) :
    t.build = (t.nesting, .model key) := by
  rw [build, hleaf]

/-- The containers of a type are among those that it is built of. -/
lemma build_ne_of_nesting {isMap : Bool} {inner : List Bool} (h : t.nesting = isMap :: inner)
    (atom : Atom) : t.build ≠ ([], atom) := by
  rw [build, h]
  split <;> simp

lemma build_primitive (p : Primitive) (format : Option String) (synthesized : Bool) :
    ({ primitive p with format := format, synthesized := synthesized } : TypeDescriptor).build =
      if p = .bytes then ([false], .primitive (.integer .unsigned .bits8))
      else ([], .primitive p) := by
  rcases p with ⟨⟨⟩, ⟨⟩⟩ | ⟨⟨⟩⟩ | _ | _ | _ | _ | _ | _ | _ | _ <;> rfl

lemma build_model (key className : String) : (model key className).build = ([], .model key) :=
  rfl

namespace Current

/-- A type leads to a model itself when it is built of nothing but that model. -/
lemma reference_eq_some_iff (ht : t.Current classNames) {key : String} :
    t.reference = some key ↔ t.build = ([], .model key) := by
  cases ht with
  | primitive p format synthesized =>
    rw [build_primitive]
    refine iff_of_false (fun h => by cases h) ?_
    split <;> simp
  | model h =>
    rw [build_model]
    simp [TypeDescriptor.model]
  | listOf h => exact iff_of_false (fun h => by cases h) (build_ne_of_nesting rfl _)
  | mapOf h => exact iff_of_false (fun h => by cases h) (build_ne_of_nesting rfl _)

/-- A type is printed as it is when it is built of nothing but a primitive type that is. -/
lemma isDisplayable_iff (ht : t.Current classNames) :
    t.isDisplayable = true ↔
      ∃ p : Primitive, p.isDisplayable = true ∧ t.build = ([], .primitive p) := by
  cases ht with
  | primitive p format synthesized =>
    rw [build_primitive]
    by_cases hp : p = .bytes
    · subst hp
      exact iff_of_false (fun h => by cases h) (by simp)
    · simp [hp, TypeDescriptor.primitive]
  | model h => exact iff_of_false (fun h => by cases h) (by simp [build_model])
  | listOf h =>
    refine iff_of_false (fun h => by cases h) ?_
    rintro ⟨p, -, hbuild⟩
    exact build_ne_of_nesting rfl _ hbuild
  | mapOf h =>
    refine iff_of_false (fun h => by cases h) ?_
    rintro ⟨p, -, hbuild⟩
    exact build_ne_of_nesting rfl _ hbuild

/-- What stands at the leaf of a type that a run makes, and the name that it has there. -/
lemma atom_cases (ht : t.Current classNames) :
    (∃ p, t.leaf.atom = .primitive p ∧ t.leaf.name = p.name) ∨
      ∃ key className, classNames key = some className ∧ t.leaf.atom = .model key ∧
        t.leaf.name = className := by
  obtain ⟨p, format, synthesized, hleaf⟩ | ⟨key, className, hname, hleaf⟩ := ht.leaf_cases
  · refine Or.inl ⟨p, ?_, by rw [hleaf]; rfl⟩
    rw [hleaf, atom]
    exact congrArg (fun found => Atom.primitive (found.getD .value)) (Primitive.ofName?_name p)
  · refine Or.inr ⟨key, className, hname, ?_, by rw [hleaf]; rfl⟩
    rw [hleaf]
    rfl

lemma known_build (ht : t.Current classNames) : t.build.2.Known classNames := by
  obtain ⟨p, hatom, -⟩ | ⟨key, className, hname, hatom, -⟩ := ht.atom_cases
  · by_cases hp : p = .bytes
    · rw [build, hatom, hp]
      exact .primitive (by decide)
    · rw [build_of_primitive hatom hp]
      exact .primitive hp
  · rw [build_of_model hatom]
    exact .model hname

lemma canonicalName_of_bare (ht : t.Current classNames) (hleaf : Bare t.leaf.name.toList) :
    t.canonicalName = String.ofList (wrapped t.nesting t.leaf.name.toList) := by
  rw [canonicalName, ht.name_eq, filter_nestedName, hleaf.filter_eq,
    removeAll_eq_self (wrapped_unqualified _ hleaf.unqualified)]

/-- **The name that a type is compared by** tells what the type is built of. -/
lemma canonicalName_eq (hnames : Unambiguous classNames) (ht : t.Current classNames) :
    t.canonicalName = String.ofList (wrapped t.build.1 (t.build.2.text classNames)) := by
  obtain ⟨p, hatom, hleaf⟩ | ⟨key, className, hname, hatom, hleaf⟩ := ht.atom_cases
  · rw [ht.canonicalName_of_bare (hleaf ▸ bare_primitive p), hleaf]
    by_cases hp : p = .bytes
    · rw [build, hatom, hp]
      exact congrArg String.ofList (wrapped_append t.nesting [false] "u8".toList).symm
    · rw [build_of_primitive hatom hp]
      rfl
  · rw [ht.canonicalName_of_bare (hleaf ▸ bare_of_legal (hnames.legal hname)), hleaf,
      build_of_model hatom, Atom.text, hname]
    rfl

/-- **Types count as the same when they are built of the same.** -/
theorem sameType_iff (hnames : Unambiguous classNames) (ht : t.Current classNames)
    (hu : u.Current classNames) : t.sameType u = true ↔ t.build = u.build := by
  rw [sameType, beq_iff_eq, ht.canonicalName_eq hnames, hu.canonicalName_eq hnames,
    String.ofList_inj]
  constructor
  · intro h
    obtain ⟨hnesting, htext⟩ := wrapped_injective (ht.known_build.unopened hnames)
      (hu.known_build.unopened hnames) h
    exact Prod.ext hnesting (ht.known_build.eq_of_text_eq hnames hu.known_build htext)
  · intro h
    rw [h]

/-- **Types that count as the same are printed the same way.** -/
lemma isDisplayable_of_sameType (hnames : Unambiguous classNames) (ht : t.Current classNames)
    (hu : u.Current classNames) (h : t.sameType u = true) : t.isDisplayable = u.isDisplayable := by
  rw [Bool.eq_iff_iff, ht.isDisplayable_iff, hu.isDisplayable_iff, (ht.sameType_iff hnames hu).1 h]

end Current

end TypeDescriptor

end ApiTypes
