import ApiTypes.Proofs.IntegerTypes
import Mathlib.Order.Bounds.Basic

/-!
# Counting the bits of a word

A bound is a word, and its bits can be counted in words: they are what the zeros at the front leave
of all bits, once a negative bound is moved by one and turned around.  Words overflow, so the count
is given here a second time with a check at every step, as a count that fails rather than overflow.
It never fails, and it is the count of the library.  That this is the right one is said without any
digits: the bits are the least number with room for the bound.

* `Word.add?`, `Word.neg?`, `Word.sub?` — arithmetic that fails where the exact result does not fit.
* `Word.leadingZeros_add_bitLength` — the zeros at the front and the digits behind them are all
  bits of a word.
* `Word.countBits?_eq` — **counting in words never overflows**, and it counts what the library does.
* `Takes.isLeast` — the bits that a bound takes are the least number with room for it.
* `requiredBits_exact` — **the count is exact**, for all words and both ways to read them.
-/

namespace ApiTypes

/-! ## Counting in words -/

namespace Word

/-- The word for a number, if there is one. -/
def ofInt? (value : Int) : Option Int64 :=
  if fitsSigned value then some (.ofInt value) else none

/-- The sum of two words, if it is a word. -/
def add? (a b : Int64) : Option Int64 :=
  ofInt? (a.toInt + b.toInt)

/-- The negative of a word, if it is a word. -/
def neg? (a : Int64) : Option Int64 :=
  ofInt? (-a.toInt)

/-- The difference of two counts, if it is not below zero. -/
def sub? (n m : Nat) : Option Nat :=
  if m ≤ n then some (n - m) else none

/-- A word that is not negative, as a word without a sign. -/
def unsigned? (a : Int64) : Option UInt64 :=
  if a.toInt < 0 then none else some (.ofNat a.toInt.toNat)

/-- The size of a word, as a word without a sign. -/
def size (a : Int64) : UInt64 :=
  .ofNat a.toInt.natAbs

/-- The number of zeros at the front of a word. -/
def leadingZeros (w : UInt64) : Nat :=
  w.toBitVec.clz.toNat

/-- **The bits that a bound takes, counted in words.**  Nothing is counted when a step overflows. -/
def countBits? (sign : Signedness) (which : BoundKind) :
    Option Int64 → Option (Except ResolveError Nat)
  | none => some (.ok 0)
  | some bound =>
    match sign with
    | .unsigned =>
      match unsigned? bound with
      | none => some (.error (.invalidBound which bound.toInt none))
      | some word => (sub? 65 (leadingZeros (word >>> 1))).map .ok
    | .signed => do
      let word ← if bound.toInt < 0 then (add? bound 1).bind neg? else some bound
      (sub? 65 (leadingZeros (size word))).map .ok

lemma ofInt?_of_holds (value : Int) (h : Signedness.signed.Holds 64 value) :
    ∃ word, ofInt? value = some word ∧ word.toInt = value :=
  ⟨.ofInt value, if_pos (fitsSigned_iff.2 h), Int64.toInt_ofInt_of_le h.1 h.2⟩

/-- The zeros at the front of a word and the digits behind them are all of its bits. -/
lemma leadingZeros_add_bitLength (w : UInt64) : leadingZeros w + bitLength w.toNat = 64 := by
  have hzeros : leadingZeros w ≤ 64 := BitVec.clz_le (x := w.toBitVec)
  have hupper : bitLength w.toNat ≤ 64 - leadingZeros w :=
    bitLength_le_iff.2 (BitVec.toNat_lt_two_pow_sub_clz (x := w.toBitVec))
  by_cases hzero : w.toBitVec = 0#64
  · have hall : leadingZeros w = 64 := congrArg BitVec.toNat (BitVec.clz_eq_iff_eq_zero.2 hzero)
    omega
  · have hpow : 2 ^ (63 - leadingZeros w) ≤ w.toNat :=
      BitVec.two_pow_sub_clz_le_toNat_of_ne_zero (by decide) hzero
    have hlower : ¬ bitLength w.toNat ≤ 63 - leadingZeros w :=
      fun h => Nat.not_lt.2 hpow (bitLength_le_iff.1 h)
    have hdigit : leadingZeros w < 64 := BitVec.clz_lt_iff_ne_zero.2 hzero
    omega

lemma sub?_leadingZeros (w : UInt64) :
    sub? 65 (leadingZeros w) = some (1 + bitLength w.toNat) := by
  have hall := leadingZeros_add_bitLength w
  rw [sub?, if_pos (by omega)]
  congr 1
  omega

/-- A negative word can be moved up by one and turned around then, even the least of all. -/
lemma exists_turned {bound : Int64} (h : bound.toInt < 0) :
    ∃ word, (add? bound 1).bind neg? = some word ∧ word.toInt = -(bound.toInt + 1) := by
  have hleast := bound.le_toInt
  obtain ⟨next, hadd, hnext⟩ := ofInt?_of_holds (bound.toInt + 1) ⟨by omega, by omega⟩
  obtain ⟨word, hneg, hword⟩ := ofInt?_of_holds (-next.toInt) ⟨by omega, by omega⟩
  refine ⟨word, ?_, by rw [hword, hnext]⟩
  have hadd : add? bound 1 = some next := hadd
  rw [hadd]
  exact hneg

/-- A number up to a word is one without a sign. -/
lemma toNat_ofNat {n : Nat} {word : Int64} (h : (n : Int) ≤ word.toInt) :
    (UInt64.ofNat n).toNat = n := by
  have hgreatest := word.toInt_lt
  refine UInt64.toNat_ofNat_of_lt' ?_
  rw [UInt64.size]
  omega

/-- The size of a word that is not negative is its number. -/
lemma toNat_size {word : Int64} {value : Int} (hword : word.toInt = value) (h : 0 ≤ value) :
    (size word).toNat = value.toNat := by
  rw [size, toNat_ofNat (show _ ≤ word.toInt by omega)]
  omega

/-- A word that is not negative is one without a sign. -/
lemma exists_unsigned {bound : Int64} (h : ¬ bound.toInt < 0) :
    ∃ word, unsigned? bound = some word ∧ word.toNat = bound.toInt.toNat :=
  ⟨_, if_neg h, toNat_ofNat (show _ ≤ bound.toInt by omega)⟩

lemma toNat_half (word : UInt64) : (word >>> 1).toNat = word.toNat / 2 := by
  rw [UInt64.toNat_shiftRight]
  exact Nat.shiftRight_one _

/-- **Counting in words never overflows**, and it counts what the library does. -/
lemma countBits?_eq (sign : Signedness) (which : BoundKind) (bound : Option Int64) :
    countBits? sign which bound = some (requiredBits sign which (bound.map Int64.toInt)) := by
  cases bound with
  | none => rfl
  | some bound =>
    rw [Option.map_some]
    by_cases hnegative : bound.toInt < 0
    · cases sign with
      | unsigned => simp only [countBits?, requiredBits, unsigned?, if_pos hnegative]
      | signed =>
        obtain ⟨word, hturned, hword⟩ := exists_turned hnegative
        have hsize := toNat_size hword (by omega)
        simp [countBits?, requiredBits, hnegative, hturned, sub?_leadingZeros, hsize]
    · cases sign with
      | unsigned =>
        obtain ⟨word, hunsigned, hword⟩ := exists_unsigned hnegative
        simp only [countBits?, requiredBits, if_neg hnegative, hunsigned, sub?_leadingZeros,
          toNat_half, hword, Option.map_some]
      | signed =>
        have hsize : (size bound).toNat = bound.toInt.toNat := toNat_size rfl (by omega)
        simp [countBits?, requiredBits, hnegative, sub?_leadingZeros, hsize]

end Word

/-! ## The least number with room -/

/-- **The bits that a bound takes are the least number with room for it.** -/
lemma Takes.isLeast {sign : Signedness} {value : Int} {bits : Nat}
    (h : Takes sign (some value) bits) : IsLeast {n | 1 ≤ n ∧ sign.Holds n value} bits := by
  have hpos : 0 < bits := Nat.pos_of_ne_zero fun hzero => by simpa using h.eq_zero_iff.1 hzero
  have hroom : ∀ {n}, 0 < n → (bits ≤ n ↔ sign.Holds n value) := fun hn => by
    simpa using h.le_iff hn
  refine ⟨⟨hpos, (hroom hpos).1 le_rfl⟩, ?_⟩
  rintro n ⟨hn, hholds⟩
  exact (hroom hn).2 hholds

/-- There is a count just when it is the right one. -/
lemma requiredBits_eq_ok_iff {sign : Signedness} {which : BoundKind} {value : Int} {n : Nat} :
    requiredBits sign which (some value) = .ok n ↔ IsLeast {n | 1 ≤ n ∧ sign.Holds n value} n := by
  rcases requiredBits_cases sign which (some value) with
    ⟨bits, hok, htakes⟩ | ⟨negative, hsome, hnegative, rfl, herror⟩
  · rw [hok, Except.ok.injEq]
    exact ⟨fun h => h ▸ htakes.isLeast, htakes.isLeast.unique⟩
  · obtain rfl := Option.some.inj hsome
    rw [herror]
    exact iff_of_false (fun h => by cases h) fun h => Int.not_le.2 hnegative h.1.2.1

/-- **What is promised of counting the bits of a word.** -/
structure CountsBits (which : BoundKind) (bound : Int64) : Prop where
  /-- Without a sign there is no count just when the word is negative, and then that is told. -/
  unsigned_error_iff : ∀ e, requiredBits .unsigned which (some bound.toInt) = .error e ↔
    bound.toInt < 0 ∧ e = .invalidBound which bound.toInt none
  /-- Otherwise the count is the least number of bits whose numbers go beyond the word. -/
  unsigned_ok_iff : ∀ n, requiredBits .unsigned which (some bound.toInt) = .ok n ↔
    0 ≤ bound.toInt ∧ IsLeast {n | 1 ≤ n ∧ bound.toInt < 2 ^ n} n
  /-- With a sign there is always a count. -/
  signed_total : ∃ n, requiredBits .signed which (some bound.toInt) = .ok n
  /-- It is the least number of bits with room for the word when one of them is for the sign. -/
  signed_ok_iff : ∀ n, requiredBits .signed which (some bound.toInt) = .ok n ↔
    IsLeast {n | 1 ≤ n ∧ -2 ^ (n - 1) ≤ bound.toInt ∧ bound.toInt < 2 ^ (n - 1)} n
  /-- No word takes more bits than words have. -/
  le_bits : ∀ sign n, requiredBits sign which (some bound.toInt) = .ok n → n ≤ 64
  /-- Nothing overflows on the way. -/
  inWords : ∀ sign, Word.countBits? sign which (some bound) =
    some (requiredBits sign which (some bound.toInt))

/-- **The bits of a word are counted exactly**, with a sign and without; an absent bound has
none. -/
theorem requiredBits_exact (which : BoundKind) :
    (∀ sign, requiredBits sign which none = .ok 0) ∧ ∀ bound : Int64, CountsBits which bound := by
  refine ⟨fun _ => rfl, fun bound => ?_⟩
  constructor
  case unsigned_error_iff =>
    intro e
    rw [requiredBits]
    split
    · rename_i hnegative
      exact ⟨fun h => ⟨hnegative, (Except.error.inj h).symm⟩, fun h => congrArg _ h.2.symm⟩
    · rename_i hnonnegative
      exact iff_of_false (fun h => by cases h) fun h => hnonnegative h.1
  case unsigned_ok_iff =>
    intro n
    rw [requiredBits_eq_ok_iff]
    by_cases hnonnegative : 0 ≤ bound.toInt
    · simp [Signedness.Holds, hnonnegative]
    · exact iff_of_false (fun h => hnonnegative h.1.2.1) fun h => hnonnegative h.1
  case signed_total => exact ⟨_, rfl⟩
  case signed_ok_iff => exact fun n => requiredBits_eq_ok_iff
  case le_bits =>
    intro sign n h
    obtain ⟨⟨hpos, hholds⟩, hleast⟩ := requiredBits_eq_ok_iff.1 h
    refine hleast ⟨by decide, Signedness.holds_of_fitsSigned (fitsSigned_toInt bound) ?_⟩
    rintro rfl
    exact hholds.1
  case inWords => exact fun sign => Word.countBits?_eq sign which (some bound)

/-- The least word takes as many bits as the greatest. -/
example : requiredBits .signed .minimum (some Int64.minValue.toInt) = .ok 64 ∧
    requiredBits .signed .maximum (some Int64.maxValue.toInt) = .ok 64 :=
  ⟨rfl, rfl⟩

end ApiTypes
