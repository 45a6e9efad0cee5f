import ApiTypes.Resolution.Integer
import Mathlib.Algebra.Order.Ring.Int
import Mathlib.Tactic.SplitIfs

/-!
# The type of an integer

The type of an integer follows from its bounds by counting bits.  What this file says of it does not
count any: a number of bits has room for some values and not for others, and the type is the
narrowest one with room for all bounds.  The two are brought together once, where a bound is said to
take at most so many bits just when there is room for it (`requiredBits_cases`).

* `ScalarSchema.BoundsFit`, `ScalarSchema.Misfit` — there is a type for the bounds; what is wrong
  with them otherwise.
* `Signedness.Holds`, `Primitive.Holds` — the values that there is room for.
* `bitLength_le_iff`, `requiredBits_cases`, `IntegerWidth.atLeast_le_iff` — bits and room.
* `ScalarSchema.Suits` — the right type for the format and the bounds of an integer.
* `integerType_cases` — **every integer has the right type, or its bounds do not fit**;
  `integerType_eq_error_iff` — and then it is told what is wrong with them.
-/

namespace ApiTypes

/-! ## Room for values -/

/-- A number of bits has room for a value.  With a sign, one of the bits is for the sign. -/
def Signedness.Holds : Signedness → (bits : Nat) → (value : Int) → Prop
  | .signed, bits, value => -2 ^ (bits - 1) ≤ value ∧ value < 2 ^ (bits - 1)
  | .unsigned, bits, value => 0 ≤ value ∧ value < 2 ^ bits

/-- A type has room for an integer, on whatever machine: an address has sixteen bits at least. -/
def Primitive.Holds : Primitive → (number : Int) → Prop
  | .integer sign width, number => sign.Holds width.bits number
  | .address sign, number => sign.Holds 16 number
  | _, _ => False

/-- A word is what sixty-four bits with a sign have room for. -/
lemma fitsSigned_iff {value : Int} :
    fitsSigned value = true ↔ Signedness.signed.Holds 64 value := by
  have hmin : Int64.minValue.toInt = -2 ^ 63 := by decide
  have hmax : Int64.maxValue.toInt = 2 ^ 63 - 1 := by decide
  rw [fitsSigned, Bool.and_eq_true, decide_eq_true_eq, decide_eq_true_eq, hmin, hmax,
    Signedness.Holds]
  omega

lemma fitsSigned_toInt (word : Int64) : fitsSigned word.toInt = true :=
  fitsSigned_iff.2 ⟨word.le_toInt, word.toInt_lt⟩

lemma Signedness.Holds.mono {sign : Signedness} {bits more : Nat} {value : Int}
    (h : sign.Holds bits value) (hmore : bits ≤ more) : sign.Holds more value := by
  cases sign with
  | signed =>
    obtain ⟨hleast, hgreatest⟩ := h
    have hpow : (2 : Int) ^ (bits - 1) ≤ 2 ^ (more - 1) := by
      exact_mod_cast Nat.pow_le_pow_right (by decide) (Nat.sub_le_sub_right hmore 1)
    exact ⟨by omega, Int.lt_of_lt_of_le hgreatest hpow⟩
  | unsigned =>
    obtain ⟨hleast, hgreatest⟩ := h
    have hpow : (2 : Int) ^ bits ≤ 2 ^ more := by
      exact_mod_cast Nat.pow_le_pow_right (by decide) hmore
    exact ⟨hleast, Int.lt_of_lt_of_le hgreatest hpow⟩

/-- Without a sign there is room in sixty-four bits for all words that need none. -/
lemma Signedness.holds_of_fitsSigned {sign : Signedness} {value : Int}
    (hword : fitsSigned value = true) (hsign : sign = .unsigned → 0 ≤ value) :
    sign.Holds 64 value := by
  obtain ⟨hleast, hgreatest⟩ := fitsSigned_iff.1 hword
  cases sign with
  | signed => exact ⟨hleast, hgreatest⟩
  | unsigned => exact ⟨hsign rfl, Int.lt_trans hgreatest (by decide)⟩

/-! ## Bounds of integers -/

/-- A bound, moved by a step when it is exclusive. -/
def movedBound (exclusive : Bool) (step : Int) (bound : Option Int64) : Option Int :=
  bound.map fun b => if exclusive then b.toInt + step else b.toInt

namespace ScalarSchema

/-- The least value that the bounds allow. -/
def least? (s : ScalarSchema) : Option Int :=
  movedBound s.exclusiveMinimum 1 s.minimum

/-- The greatest value that the bounds allow. -/
def greatest? (s : ScalarSchema) : Option Int :=
  movedBound s.exclusiveMaximum (-1) s.maximum

/-- The bounds that are there. -/
def bounds (s : ScalarSchema) : List Int :=
  s.least?.toList ++ s.greatest?.toList

/-- **The bounds of an integer fit**: the least and the greatest value are words of 64 bits, and the
greatest is not negative when the least is not. -/
structure BoundsFit (s : ScalarSchema) : Prop where
  least : ∀ least ∈ s.least?, fitsSigned least = true
  greatest : ∀ greatest ∈ s.greatest?, fitsSigned greatest = true
  signs : ∀ least ∈ s.least?, ∀ greatest ∈ s.greatest?, 0 ≤ least → 0 ≤ greatest

instance (s : ScalarSchema) : Decidable s.BoundsFit :=
  decidable_of_iff ((∀ least ∈ s.least?, fitsSigned least = true) ∧
      (∀ greatest ∈ s.greatest?, fitsSigned greatest = true) ∧
      ∀ least ∈ s.least?, ∀ greatest ∈ s.greatest?, 0 ≤ least → 0 ≤ greatest)
    ⟨fun ⟨hleast, hgreatest, hsigns⟩ => ⟨hleast, hgreatest, hsigns⟩,
      fun h => ⟨h.least, h.greatest, h.signs⟩⟩

/-- **What is wrong with bounds that do not fit**; of several things the first. -/
inductive Misfit (s : ScalarSchema) : ResolveError → Prop where
  /-- There is no word above an exclusive minimum. -/
  | minimum {declared : Int64} {least : Int} (hdeclared : s.minimum = some declared)
      (hleast : s.least? = some least) (hword : ¬ Signedness.signed.Holds 64 least) :
      Misfit s (.invalidBound .minimum declared.toInt none)
  /-- There is no word below an exclusive maximum. -/
  | maximum {declared : Int64} {greatest : Int}
      (hleast : ∀ least ∈ s.least?, Signedness.signed.Holds 64 least)
      (hdeclared : s.maximum = some declared) (hgreatest : s.greatest? = some greatest)
      (hword : ¬ Signedness.signed.Holds 64 greatest) :
      Misfit s (.invalidBound .maximum declared.toInt none)
  /-- The least value is not negative, but the greatest is. -/
  | crossed {least greatest : Int} (hleast : s.least? = some least)
      (hgreatest : s.greatest? = some greatest) (hword : Signedness.signed.Holds 64 least)
      (hword' : Signedness.signed.Holds 64 greatest) (hnonnegative : 0 ≤ least)
      (hnegative : greatest < 0) : Misfit s (.invalidBound .maximum greatest none)

variable {s : ScalarSchema} {e e' : ResolveError}

lemma Misfit.exists_eq (h : s.Misfit e) :
    ∃ which value, e = .invalidBound which value none := by
  cases h <;> exact ⟨_, _, rfl⟩

lemma Misfit.not_boundsFit (h : s.Misfit e) : ¬ s.BoundsFit := by
  intro hfit
  cases h with
  | minimum hdeclared hleast hword => exact hword (fitsSigned_iff.1 (hfit.least _ hleast))
  | maximum hfirst hdeclared hgreatest hword =>
    exact hword (fitsSigned_iff.1 (hfit.greatest _ hgreatest))
  | crossed hleast hgreatest hword hword' hnonnegative hnegative =>
    exact absurd (hfit.signs _ hleast _ hgreatest hnonnegative) (Int.not_le.2 hnegative)

/-- Bounds have one thing wrong with them first. -/
lemma Misfit.unique (h : s.Misfit e) (h' : s.Misfit e') : e = e' := by
  cases h with
  | minimum hdeclared hleast hword =>
    cases h' with
    | minimum hdeclared' _ _ => rw [Option.some.inj (hdeclared.symm.trans hdeclared')]
    | maximum hfirst _ _ _ => exact absurd (hfirst _ hleast) hword
    | crossed hleast' _ hword' _ _ _ =>
      exact absurd (Option.some.inj (hleast'.symm.trans hleast) ▸ hword') hword
  | maximum hfirst hdeclared hgreatest hword =>
    cases h' with
    | minimum _ hleast hword' => exact absurd (hfirst _ hleast) hword'
    | maximum _ hdeclared' _ _ => rw [Option.some.inj (hdeclared.symm.trans hdeclared')]
    | crossed _ hgreatest' _ hword' _ _ =>
      exact absurd (Option.some.inj (hgreatest'.symm.trans hgreatest) ▸ hword') hword
  | crossed hleast hgreatest hword hword' _ _ =>
    cases h' with
    | minimum _ hleast' hnot =>
      exact absurd (Option.some.inj (hleast.symm.trans hleast') ▸ hword) hnot
    | maximum _ _ hgreatest' hnot =>
      exact absurd (Option.some.inj (hgreatest.symm.trans hgreatest') ▸ hword') hnot
    | crossed _ hgreatest' _ _ _ _ => rw [Option.some.inj (hgreatest.symm.trans hgreatest')]

end ScalarSchema

/-- A bound is moved as it should, or there is no word for it then. -/
lemma inclusiveBound_cases (which : BoundKind) (exclusive : Bool) (step : Int)
    (bound : Option Int64) :
    ((∀ moved ∈ movedBound exclusive step bound, fitsSigned moved = true) ∧
        inclusiveBound which exclusive step bound = .ok (movedBound exclusive step bound)) ∨
      ∃ declared moved, bound = some declared ∧ movedBound exclusive step bound = some moved ∧
        ¬ Signedness.signed.Holds 64 moved ∧
        inclusiveBound which exclusive step bound =
          .error (.invalidBound which declared.toInt none) := by
  cases bound with
  | none => exact Or.inl ⟨by simp [movedBound], rfl⟩
  | some b =>
    cases exclusive with
    | false => exact Or.inl ⟨by simp [movedBound, fitsSigned_toInt], rfl⟩
    | true =>
      by_cases hfits : fitsSigned (b.toInt + step) = true
      · exact Or.inl ⟨by simp [movedBound, hfits], by simp [inclusiveBound, movedBound, hfits]⟩
      · exact Or.inr ⟨b, b.toInt + step, rfl, rfl, fun h => hfits (fitsSigned_iff.2 h),
          by simp [inclusiveBound, hfits]⟩

/-- The bounds of an integer are moved as they should, or it is told which one cannot be. -/
lemma IntegerBounds.ofSchema_cases (s : ScalarSchema) :
    ((∀ least ∈ s.least?, fitsSigned least = true) ∧
        (∀ greatest ∈ s.greatest?, fitsSigned greatest = true) ∧
        ofSchema s = .ok ⟨s.least?, s.greatest?⟩) ∨
      ∃ e, s.Misfit e ∧ ofSchema s = .error e := by
  rcases inclusiveBound_cases .minimum s.exclusiveMinimum 1 s.minimum with
    ⟨hleast, hmin⟩ | ⟨declared, least, hdeclared, hmoved, hword, hmin⟩
  · rcases inclusiveBound_cases .maximum s.exclusiveMaximum (-1) s.maximum with
      ⟨hgreatest, hmax⟩ | ⟨declared, greatest, hdeclared, hmoved, hword, hmax⟩
    · refine Or.inl ⟨hleast, hgreatest, ?_⟩
      rw [ofSchema, hmin, hmax]
      rfl
    · refine Or.inr ⟨_, .maximum (fun least h => fitsSigned_iff.1 (hleast least h)) hdeclared
        hmoved hword, ?_⟩
      rw [ofSchema, hmin, hmax]
      rfl
  · refine Or.inr ⟨_, .minimum hdeclared hmoved hword, ?_⟩
    rw [ofSchema, hmin]
    rfl

/-! ## Bits -/

lemma bitLength_le_iff {n bits : Nat} : bitLength n ≤ bits ↔ n < 2 ^ bits := by
  by_cases hzero : n = 0
  · rw [hzero, bitLength, if_pos rfl]
    exact iff_of_true (Nat.zero_le bits) (Nat.two_pow_pos bits)
  · rw [bitLength, if_neg hzero, Nat.succ_le_iff, Nat.log2_lt hzero]

/-- **The bits that a bound takes**: none when there is no bound, and otherwise as many as have room
for it. -/
structure Takes (sign : Signedness) (bound : Option Int) (bits : Nat) : Prop where
  eq_zero_iff : bits = 0 ↔ bound = none
  le_iff : ∀ {room : Nat}, 0 < room → (bits ≤ room ↔ ∀ value ∈ bound, sign.Holds room value)

lemma Takes.nonnegative {bound : Option Int} {bits : Nat} (h : Takes .unsigned bound bits) :
    ∀ value ∈ bound, 0 ≤ value :=
  fun value hvalue => ((h.le_iff bits.succ_pos).1 bits.le_succ value hvalue).1

lemma takes_signed (value : Int) :
    Takes .signed (some value)
      (1 + bitLength (if value < 0 then -(value + 1) else value).toNat) where
  eq_zero_iff := by simp
  le_iff {room} hroom := by
    obtain ⟨rest, rfl⟩ := Nat.exists_eq_succ_of_ne_zero (Nat.ne_of_gt hroom)
    have hpow : ((2 ^ rest : Nat) : Int) = 2 ^ rest := by norm_cast
    simp only [Option.mem_some_iff, forall_eq', Signedness.Holds]
    rw [Nat.succ_eq_add_one, Nat.add_comm 1, Nat.add_le_add_iff_right, bitLength_le_iff,
      Nat.add_sub_cancel, ← hpow]
    split <;> omega

/-- The lowest bit makes no difference, for a bound takes one bit at least. -/
lemma takes_unsigned {value : Int} (h : 0 ≤ value) :
    Takes .unsigned (some value) (1 + bitLength (value.toNat / 2)) where
  eq_zero_iff := by simp
  le_iff {room} hroom := by
    obtain ⟨rest, rfl⟩ := Nat.exists_eq_succ_of_ne_zero (Nat.ne_of_gt hroom)
    have hpow : ((2 ^ rest : Nat) : Int) * 2 = 2 ^ (rest + 1) := by
      rw [Int.pow_succ]
      norm_cast
    simp only [Option.mem_some_iff, forall_eq', Signedness.Holds]
    rw [Nat.succ_eq_add_one, Nat.add_comm 1, Nat.add_le_add_iff_right, bitLength_le_iff, ← hpow]
    omega

/-- **A bound takes the bits that have room for it**, or it is negative where there is no sign. -/
lemma requiredBits_cases (sign : Signedness) (which : BoundKind) (bound : Option Int) :
    (∃ bits, requiredBits sign which bound = .ok bits ∧ Takes sign bound bits) ∨
      ∃ value, bound = some value ∧ value < 0 ∧ sign = .unsigned ∧
        requiredBits sign which bound = .error (.invalidBound which value none) := by
  cases bound with
  | none => exact Or.inl ⟨0, rfl, by simp, by simp⟩
  | some value =>
    cases sign with
    | signed => exact Or.inl ⟨_, rfl, takes_signed value⟩
    | unsigned =>
      by_cases hnegative : value < 0
      · exact Or.inr ⟨value, rfl, hnegative, rfl, by rw [requiredBits, if_pos hnegative]⟩
      · exact Or.inl ⟨_, by rw [requiredBits, if_neg hnegative],
          takes_unsigned (Int.not_lt.1 hnegative)⟩

/-! ## Widths -/

namespace IntegerWidth

lemma bits_pos (width : IntegerWidth) : 0 < width.bits := by
  cases width <;> decide

/-- **The least width with so many bits** is below all others that have them. -/
lemma atLeast_le_iff {bits : Nat} (h : bits ≤ 64) {width : IntegerWidth} :
    (atLeast bits).bits ≤ width.bits ↔ bits ≤ width.bits := by
  rw [atLeast]
  split_ifs <;> cases width <;> simp only [IntegerWidth.bits] <;> omega

end IntegerWidth

/-- The format that tells a width, and whether there is to be a sign. -/
def integerFormat (sign : Signedness) (width : IntegerWidth) : String :=
  match sign with
  | .signed => "int" ++ width.bits.repr
  | .unsigned => "uint" ++ width.bits.repr

example : integerFormat .unsigned .bits16 = "uint16" := rfl

lemma integerFormat_injective {sign sign' : Signedness} {width width' : IntegerWidth}
    (h : integerFormat sign width = integerFormat sign' width') :
    sign = sign' ∧ width = width' := by
  revert h
  cases sign <;> cases sign' <;> cases width <;> cases width' <;> decide

/-- Eight formats tell a width, and these are they. -/
lemma formatWidth?_integerFormat (sign : Signedness) (width : IntegerWidth) :
    formatWidth? (integerFormat sign width) = some (width, decide (sign = .unsigned)) := by
  cases sign <;> cases width <;> rfl

lemma eq_integerFormat_of_formatWidth? {format : String} {width : IntegerWidth} {forced : Bool}
    (h : formatWidth? format = some (width, forced)) :
    format = integerFormat (if forced then .unsigned else .signed) width := by
  rw [formatWidth?.eq_def] at h
  split at h <;> cases h <;> decide

namespace ScalarSchema

/-- The sign that the bounds ask for. -/
def boundsSign (s : ScalarSchema) : Signedness :=
  IntegerBounds.signedness ⟨s.least?, s.greatest?⟩

lemma signedness_bounds (s : ScalarSchema) :
    IntegerBounds.signedness ⟨s.least?, s.greatest?⟩ = s.boundsSign :=
  rfl

/-- None is asked for just when there is a least value and it is not negative. -/
lemma boundsSign_eq_unsigned_iff {s : ScalarSchema} :
    s.boundsSign = .unsigned ↔ ∃ least ∈ s.least?, 0 ≤ least := by
  rw [boundsSign, IntegerBounds.signedness]
  cases s.least? with
  | none => simp
  | some least => simp

/-- There are bits for every least value, for without a sign it is not negative. -/
lemma least_takes (s : ScalarSchema) :
    ∃ bits, requiredBits s.boundsSign .minimum s.least? = .ok bits ∧
      Takes s.boundsSign s.least? bits := by
  refine (requiredBits_cases s.boundsSign .minimum s.least?).resolve_right ?_
  rintro ⟨least, hsome, hnegative, hunsigned, -⟩
  obtain ⟨least', hsome', hnonnegative⟩ := boundsSign_eq_unsigned_iff.1 hunsigned
  rw [Option.some.inj (hsome.symm.trans hsome')] at hnegative
  exact absurd hnonnegative (Int.not_le.2 hnegative)

lemma mem_bounds {s : ScalarSchema} {value : Int} :
    value ∈ s.bounds ↔ value ∈ s.least? ∨ value ∈ s.greatest? := by
  rw [bounds, List.mem_append, Option.mem_toList, Option.mem_toList]
  rfl

/-- The bits that both bounds take at most have room for both. -/
lemma max_le_iff_holds {s : ScalarSchema} {sign : Signedness} {minBits maxBits room : Nat}
    (hmin : Takes sign s.least? minBits) (hmax : Takes sign s.greatest? maxBits)
    (hroom : 0 < room) :
    max minBits maxBits ≤ room ↔ ∀ bound ∈ s.bounds, sign.Holds room bound := by
  rw [Nat.max_le, hmin.le_iff hroom, hmax.le_iff hroom]
  simp only [mem_bounds, or_imp, forall_and]

/-- There is room in sixty-four bits for all bounds that fit. -/
lemma BoundsFit.holds {s : ScalarSchema} (h : s.BoundsFit) :
    ∀ bound ∈ s.bounds, s.boundsSign.Holds 64 bound := by
  intro bound hbound
  rcases mem_bounds.1 hbound with hleast | hgreatest
  · refine Signedness.holds_of_fitsSigned (h.least bound hleast) fun hsign => ?_
    obtain ⟨least, hleast', hnonnegative⟩ := boundsSign_eq_unsigned_iff.1 hsign
    exact Option.mem_unique hleast' hleast ▸ hnonnegative
  · refine Signedness.holds_of_fitsSigned (h.greatest bound hgreatest) fun hsign => ?_
    obtain ⟨least, hleast, hnonnegative⟩ := boundsSign_eq_unsigned_iff.1 hsign
    exact h.signs least hleast bound hgreatest hnonnegative

/-- No width is told by the format. -/
def TellsNoWidth (s : ScalarSchema) : Prop :=
  ∀ sign width, s.format ≠ some (integerFormat sign width)

/-- A format that tells a width is found, and no other is. -/
lemma format_cases (s : ScalarSchema) :
    (∃ told width, s.format = some (integerFormat told width) ∧
        s.format.bind formatWidth? = some (width, decide (told = .unsigned))) ∨
      s.TellsNoWidth ∧ s.format.bind formatWidth? = none := by
  rcases hfound : s.format.bind formatWidth? with _ | ⟨width, forced⟩
  · refine Or.inr ⟨fun sign width hformat => ?_, rfl⟩
    rw [hformat, Option.bind_some, formatWidth?_integerFormat] at hfound
    cases hfound
  · obtain ⟨format, hformat, hwidth⟩ := Option.bind_eq_some_iff.1 hfound
    refine Or.inl ⟨_, width, hformat.trans (congrArg some (eq_integerFormat_of_formatWidth? hwidth)),
      ?_⟩
    cases forced <;> rfl

/-! ## The type -/

/-- No sign is asked for: the least value is not negative, or the format says so. -/
def AsksNoSign (s : ScalarSchema) : Prop :=
  (∃ least ∈ s.least?, 0 ≤ least) ∨ ∃ width, s.format = some (integerFormat .unsigned width)

/-- Nothing is known that would limit the size: there is no greatest value, and the least one, if
there is one, is small. -/
def Unlimited (s : ScalarSchema) (sign : Signedness) : Prop :=
  s.greatest? = none ∧ ∀ least ∈ s.least?, sign.Holds 16 least

/-- **The right type for an integer**, with a sign or without. -/
structure Suits (s : ScalarSchema) (addressSized : Bool) (sign : Signedness) (p : Primitive) :
    Prop where
  sign_iff : sign = .unsigned ↔ s.AsksNoSign
  /-- A format that tells a width decides it. -/
  told : ∀ told width, s.format = some (integerFormat told width) → p = .integer sign width
  /-- An integer of any size is as wide as an address, or takes sixty-four bits. -/
  unlimited : s.TellsNoWidth → s.Unlimited sign →
    p = if addressSized then .address sign else .integer sign .bits64
  /-- Any other is as narrow as there is room for its bounds. -/
  narrowest : s.TellsNoWidth → ¬ s.Unlimited sign → ∃ width, p = .integer sign width ∧
    (∀ bound ∈ s.bounds, sign.Holds width.bits bound) ∧
    ∀ other : IntegerWidth, (∀ bound ∈ s.bounds, sign.Holds other.bits bound) →
      width.bits ≤ other.bits

variable {s : ScalarSchema} {addressSized : Bool} {sign : Signedness} {p : Primitive}

/-- The type that a format tells. -/
lemma suits_told {told : Signedness} {width : IntegerWidth}
    (hformat : s.format = some (integerFormat told width)) :
    s.Suits addressSized (if told = .unsigned then .unsigned else s.boundsSign)
      (.integer (if told = .unsigned then .unsigned else s.boundsSign) width) where
  sign_iff := by
    cases told with
    | unsigned => exact iff_of_true rfl (Or.inr ⟨width, hformat⟩)
    | signed =>
      -- the format tells that there may be a sign, so only the bounds can ask for none
      refine boundsSign_eq_unsigned_iff.trans (iff_self_or.2 ?_)
      rintro ⟨other, hother⟩
      cases (integerFormat_injective (Option.some.inj (hformat.symm.trans hother))).1
  told told' width' hformat' := by
    obtain ⟨-, rfl⟩ := integerFormat_injective (Option.some.inj (hformat.symm.trans hformat'))
    rfl
  unlimited hnone := absurd hformat (hnone told width)
  narrowest hnone := absurd hformat (hnone told width)

/-- The type that the bounds ask for. -/
lemma suits_bounds {minBits maxBits : Nat} (hfit : s.BoundsFit)
    (hmin : Takes s.boundsSign s.least? minBits) (hmax : Takes s.boundsSign s.greatest? maxBits)
    (hformat : s.TellsNoWidth) :
    s.Suits addressSized s.boundsSign (if maxBits = 0 ∧ minBits ≤ 16 then
      (if addressSized then .address s.boundsSign else .integer s.boundsSign .bits64)
      else .narrowest s.boundsSign (max minBits maxBits)) := by
  have hunlimited : s.Unlimited s.boundsSign ↔ maxBits = 0 ∧ minBits ≤ 16 := by
    rw [Unlimited, hmax.eq_zero_iff, hmin.le_iff (by decide)]
  have hword : max minBits maxBits ≤ 64 := (max_le_iff_holds hmin hmax (by decide)).2 hfit.holds
  constructor
  case sign_iff =>
    refine boundsSign_eq_unsigned_iff.trans (iff_self_or.2 ?_)
    rintro ⟨width, hwidth⟩
    exact absurd hwidth (hformat .unsigned width)
  case told => exact fun told width hwidth => absurd hwidth (hformat told width)
  case unlimited => exact fun _ h => if_pos (hunlimited.1 h)
  case narrowest =>
    intro _ h
    refine ⟨.atLeast (max minBits maxBits), if_neg (mt hunlimited.2 h), ?_, ?_⟩
    · exact (max_le_iff_holds hmin hmax (IntegerWidth.bits_pos _)).1
        ((IntegerWidth.atLeast_le_iff hword).1 (Nat.le_refl _))
    · exact fun other hother => (IntegerWidth.atLeast_le_iff hword).2
        ((max_le_iff_holds hmin hmax other.bits_pos).2 hother)

/-- **The right type has room for the bounds**, where no format tells a width. -/
lemma Suits.holds (h : s.Suits addressSized sign p) (hformat : s.TellsNoWidth) :
    ∀ bound ∈ s.bounds, p.Holds bound := by
  by_cases hunlimited : s.Unlimited sign
  · obtain ⟨hgreatest, hleast⟩ := hunlimited
    rw [h.unlimited hformat ⟨hgreatest, hleast⟩, bounds, hgreatest, Option.toList_none,
      List.append_nil]
    intro least hmem
    have hsmall := hleast least (Option.mem_toList.1 hmem)
    cases addressSized with
    | true => exact hsmall
    | false => exact hsmall.mono (by decide)
  · obtain ⟨width, rfl, hroom, -⟩ := h.narrowest hformat hunlimited
    exact hroom

end ScalarSchema

/-- **Every integer has the right type, or its bounds do not fit.** -/
lemma integerType_cases (s : ScalarSchema) (addressSized : Bool) :
    (s.BoundsFit ∧ ∃ p sign, integerType s addressSized = .ok p ∧ s.Suits addressSized sign p) ∨
      ∃ e, s.Misfit e ∧ integerType s addressSized = .error e := by
  rcases IntegerBounds.ofSchema_cases s with ⟨hleast, hgreatest, hbounds⟩ | ⟨e, he, hbounds⟩
  case inr =>
    refine Or.inr ⟨e, he, ?_⟩
    simp only [integerType, hbounds, bind, Except.bind]
  obtain ⟨minBits, hmin, hmintakes⟩ := s.least_takes
  rcases requiredBits_cases s.boundsSign .maximum s.greatest? with
    ⟨maxBits, hmax, hmaxtakes⟩ | ⟨greatest, hsome, hnegative, hunsigned, hmax⟩
  case inr =>
    obtain ⟨least, hsome', hnonnegative⟩ := ScalarSchema.boundsSign_eq_unsigned_iff.1 hunsigned
    refine Or.inr ⟨_, .crossed hsome' hsome (fitsSigned_iff.1 (hleast _ hsome'))
      (fitsSigned_iff.1 (hgreatest _ hsome)) hnonnegative hnegative, ?_⟩
    simp only [integerType, hbounds, s.signedness_bounds, hmin, hmax, bind, Except.bind]
  have hfit : s.BoundsFit := by
    refine ⟨hleast, hgreatest, fun least hsome greatest hsome' hnonnegative => ?_⟩
    rw [ScalarSchema.boundsSign_eq_unsigned_iff.2 ⟨least, hsome, hnonnegative⟩] at hmaxtakes
    exact hmaxtakes.nonnegative greatest hsome'
  refine Or.inl ⟨hfit, ?_⟩
  simp only [integerType, hbounds, s.signedness_bounds, hmin, hmax, bind, Except.bind, pure,
    Except.pure]
  rcases s.format_cases with ⟨told, width, hformat, hfound⟩ | ⟨hnone, hfound⟩
  · rw [hfound]
    simp only [decide_eq_true_eq]
    exact ⟨_, _, rfl, ScalarSchema.suits_told hformat⟩
  · rw [hfound]
    exact ⟨_, _, (apply_ite Except.ok _ _ _).symm,
      ScalarSchema.suits_bounds hfit hmintakes hmaxtakes hnone⟩

/-- **An integer without a type** is told what is wrong with its bounds. -/
lemma integerType_eq_error_iff {s : ScalarSchema} {addressSized : Bool} {e : ResolveError} :
    integerType s addressSized = .error e ↔ s.Misfit e := by
  rcases integerType_cases s addressSized with ⟨hfit, p, sign, hok, -⟩ | ⟨e', he', herror⟩
  · rw [hok]
    exact iff_of_false (fun h => by cases h) fun h => h.not_boundsFit hfit
  · rw [herror]
    constructor
    · rintro ⟨⟩
      exact he'
    · exact fun he => congrArg _ (he'.unique he)

/-! ## All of it -/

/-- **The type of an integer is the narrowest for its bounds.**  There is none just when the bounds
do not fit, and then it is told what is wrong with them first.  Otherwise there is no sign when the
least value is not negative or the format says so.  A format that tells a width decides it; without
one the type is as wide as an address when nothing limits the values, else it is the narrowest with
room for the bounds, and it has room for them in both cases. -/
theorem integerType_narrowest (s : ScalarSchema) (addressSized : Bool) :
    (∀ e, integerType s addressSized = .error e ↔ s.Misfit e) ∧
      ((∃ e, integerType s addressSized = .error e) ↔ ¬ s.BoundsFit) ∧
      ∀ p, integerType s addressSized = .ok p →
        (∃ sign, s.Suits addressSized sign p) ∧
          (s.TellsNoWidth → ∀ bound ∈ s.bounds, p.Holds bound) := by
  refine ⟨fun e => integerType_eq_error_iff, ?_⟩
  rcases integerType_cases s addressSized with ⟨hfit, p, sign, hok, hsuits⟩ | ⟨e, he, herror⟩
  · rw [hok]
    refine ⟨iff_of_false (by rintro ⟨_, ⟨⟩⟩) (not_not_intro hfit), ?_⟩
    rintro _ ⟨⟩
    exact ⟨⟨sign, hsuits⟩, hsuits.holds⟩
  · rw [herror]
    refine ⟨iff_of_true ⟨e, rfl⟩ he.not_boundsFit, ?_⟩
    rintro _ ⟨⟩

/-- The integers of a byte. -/
def ScalarSchema.byteRange : ScalarSchema :=
  { kind := .integer, minimum := some 0, maximum := some 256, exclusiveMaximum := true }

/-- The integers above all words. -/
def ScalarSchema.beyondWords : ScalarSchema :=
  { kind := .integer, minimum := some Int64.maxValue, exclusiveMinimum := true }

theorem byteRange_integerType_narrowest :
    (integerType .byteRange true = .ok (.integer .unsigned .bits8) ∧
      ScalarSchema.byteRange.TellsNoWidth ∧ ScalarSchema.byteRange.bounds = [0, 255] ∧
      (∃ sign, ScalarSchema.byteRange.Suits true sign (.integer .unsigned .bits8)) ∧
      ∀ bound ∈ ScalarSchema.byteRange.bounds, (Primitive.integer .unsigned .bits8).Holds bound) ∧
    integerType .beyondWords true = .error (.invalidBound .minimum (2 ^ 63 - 1) none) ∧
      ScalarSchema.beyondWords.Misfit (.invalidBound .minimum (2 ^ 63 - 1) none) := by
  have hok : integerType .byteRange true = .ok (.integer .unsigned .bits8) := rfl
  have herror : integerType .beyondWords true =
      .error (.invalidBound .minimum (2 ^ 63 - 1) none) := rfl
  have hformat : ScalarSchema.byteRange.TellsNoWidth := by rintro _ _ ⟨⟩
  obtain ⟨hsuits, hholds⟩ := (integerType_narrowest .byteRange true).2.2 _ hok
  exact ⟨⟨hok, hformat, by decide, hsuits, hholds hformat⟩, herror,
    ((integerType_narrowest .beyondWords true).1 _).1 herror⟩

end ApiTypes
