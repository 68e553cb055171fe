/-
# Numbers as they are written

A numeral of the JSON grammar has digits without a zero in front, and may have a fraction and an
exponent, each with at least one digit. It denotes an integer if it has neither, otherwise the
float nearest to its value. The digits of a shortest decimal `ds`, whose first digit counts
`10 ^ e`, are laid out as one of these:

| exponent | numeral |
| --- | --- |
| below zero, positional | `0.` with `-e - 1` zeros and `ds` |
| from zero on, positional | `ds`, zeros added up to the digit that counts one, a point behind it |
| not positional | `ds` with a point behind the first digit, if there are more, and the exponent |

Each has the value of the decimal (`Layout.exists_spells`), and a shortest decimal rounds to its
number. So every number is written as a numeral of the grammar that denotes it
(`Number.exists_numeral`), in digits, signs, a point and an `e`.
-/

import Pagewright.Json.Numeral
import Pagewright.Json.Printer
import Pagewright.Proofs.Binary64.Shortest

namespace Pagewright

namespace Text

/-! ## Digits -/

theorem ofDigits_eq_ofDigitChars (ds : List Char) : ofDigits ds = Nat.ofDigitChars 10 ds 0 :=
  Nat.ofDigitChars_eq_foldl.symm

/-- Digits behind others shift these by their number. -/
theorem ofDigits_append (a b : List Char) :
    ofDigits (a ++ b) = ofDigits a * 10 ^ b.length + ofDigits b := by
  rw [ofDigits_eq_ofDigitChars, Nat.ofDigitChars_append, Nat.ofDigitChars_eq_ofDigitChars_zero,
    Nat.mul_comm, ← ofDigits_eq_ofDigitChars, ← ofDigits_eq_ofDigitChars]

theorem ofDigits_replicate_zero (n : ℕ) : ofDigits (List.replicate n '0') = 0 := by
  rw [ofDigits_eq_ofDigitChars, Nat.ofDigitChars_replicate_zero, Nat.mul_zero]

/-- The digits of a number are read back. -/
theorem ofDigits_toDigits (n : ℕ) : ofDigits (Nat.toDigits 10 n) = n := by
  rw [ofDigits_eq_ofDigitChars, Nat.ofDigitChars_toDigits (by decide) (by decide)]

end Text

namespace Json

open Text (ofDigits)

/-- Digits, at least one. -/
def IsDigits (ds : List Char) : Prop := ds ≠ [] ∧ ∀ c ∈ ds, c.isDigit

/-- A number is written in digits. -/
theorem isDigits_toDigits (n : ℕ) : IsDigits (Nat.toDigits 10 n) :=
  ⟨List.length_pos_iff.1 Nat.length_toDigits_pos,
    fun _ h => Nat.isDigit_of_mem_toDigits (by decide) (by decide) h⟩

/-- Among zeros each character is a digit. -/
theorem isDigit_of_mem_zeros {n : ℕ} {c : Char} (h : c ∈ List.replicate n '0') : c.isDigit := by
  rw [List.eq_of_mem_replicate h]
  decide

theorem digitChar_ne_zero : ∀ n < 10, n ≠ 0 → Nat.digitChar n ≠ '0' := by decide

/-- A positive number has no zero in front. -/
theorem head?_toDigits_ne {n : ℕ} (hn : n ≠ 0) : (Nat.toDigits 10 n).head? ≠ some '0' := by
  induction n using Nat.strongRecOn with
  | ind n ih =>
    rw [Nat.toDigits_eq_if (by decide)]
    split
    · next hlt => simpa using digitChar_ne_zero n hlt hn
    · next hge =>
      rw [List.head?_append_of_ne_nil _ (isDigits_toDigits _).1]
      exact ih (n / 10) (by omega) (by omega)

/-! ## Numerals -/

namespace Numeral

/-- A numeral of the grammar. -/
structure WellFormed (x : Numeral) : Prop where
  whole : IsDigits x.whole
  leading : x.whole.head? = some '0' → x.whole = ['0']
  fraction : ∀ ds, x.fraction = some ds → IsDigits ds
  exponent : ∀ sign ds, x.exponent = some (sign, ds) → IsDigits ds

/-- A fraction behind its point. -/
def fractionSource : Option (List Char) → List Char
  | none => []
  | some ds => '.' :: ds

/-- An exponent behind its letter and sign. -/
def exponentSource : Option (Bool × List Char) → List Char
  | none => []
  | some (sign, ds) => 'e' :: (if sign then '-' else '+') :: ds

/-- A numeral as text. -/
def source (x : Numeral) : List Char :=
  (if x.negative then ['-'] else []) ++
    (x.whole ++ (fractionSource x.fraction ++ exponentSource x.exponent))

/-- The digits as a natural number, the point left out. -/
def significand (x : Numeral) : ℕ := ofDigits (x.whole ++ x.fraction.getD [])

/-- The exponent as written. -/
def writtenExponent (x : Numeral) : ℤ :=
  match x.exponent with
  | none => 0
  | some (sign, ds) => if sign then -(ofDigits ds : ℤ) else ofDigits ds

/-- The power of ten that the last digit counts. -/
def lastPlace (x : Numeral) : ℤ := x.writtenExponent - ((x.fraction.getD []).length : ℤ)

/-- Whether the numeral is that of an integer. -/
def isIntegral (x : Numeral) : Bool := x.fraction.isNone && x.exponent.isNone

/-- **The number that a numeral denotes:** an integer of any size, or the nearest float, if it is
finite. -/
def denoted? (x : Numeral) : Option Number :=
  if x.isIntegral then
    some (.integer (if x.negative then -(ofDigits x.whole : ℤ) else ofDigits x.whole))
  else (Binary64.ofDecimal x.negative x.significand x.lastPlace).map .float

/-- Whether a character may stand in a numeral. -/
def isNumeralChar (c : Char) : Bool :=
  c.isDigit || c == '-' || c == '+' || c == '.' || c == 'e' || c == 'E'

theorem isNumeralChar_of_isDigit {c : Char} (h : c.isDigit) : isNumeralChar c := by
  simp [isNumeralChar, h]

/-- The text of a numeral has no characters but those of numerals. -/
theorem isNumeralChar_of_mem_source {x : Numeral} (hx : x.WellFormed) {c : Char}
    (h : c ∈ x.source) : isNumeralChar c := by
  simp only [source, List.mem_append] at h
  rcases h with h | h | h | h
  · split at h
    · rw [List.mem_singleton.1 h]
      decide
    · cases h
  · exact isNumeralChar_of_isDigit (hx.whole.2 c h)
  · cases hfraction : x.fraction with
    | none => simp [hfraction, fractionSource] at h
    | some ds =>
      rw [hfraction] at h
      rcases List.mem_cons.1 h with rfl | h
      · decide
      · exact isNumeralChar_of_isDigit ((hx.fraction ds hfraction).2 c h)
  · cases hexponent : x.exponent with
    | none => simp [hexponent, exponentSource] at h
    | some e =>
      obtain ⟨sign, ds⟩ := e
      rw [hexponent] at h
      rcases List.mem_cons.1 h with rfl | h
      · decide
      rcases List.mem_cons.1 h with rfl | h
      · cases sign <;> decide
      · exact isNumeralChar_of_isDigit ((hx.exponent sign ds hexponent).2 c h)

end Numeral
end Json

/-! ## Integers -/

namespace Number

open Json (Numeral)

/-- The digits of a number are a numeral. -/
theorem wellFormed_toDigits (negative : Bool) {n : ℕ} :
    (⟨negative, Nat.toDigits 10 n, none, none⟩ : Numeral).WellFormed where
  whole := Json.isDigits_toDigits n
  leading h := by
    by_cases hn : n = 0
    · rw [hn]
      rfl
    · exact absurd h (Json.head?_toDigits_ne hn)
  fraction := by rintro ds ⟨⟩
  exponent := by rintro sign ds ⟨⟩

/-- The numeral of an integer has digits only. -/
theorem exists_numeral_integer (n : ℤ) : ∃ x : Numeral, x.WellFormed ∧
    (Number.integer n).toText.toList = x.source ∧ x.denoted? = some (.integer n) := by
  cases n with
  | ofNat n =>
    refine ⟨⟨false, Nat.toDigits 10 n, none, none⟩, wellFormed_toDigits false, ?_, ?_⟩
    · change (toString n).toList = _
      simp [Numeral.source, Numeral.fractionSource, Numeral.exponentSource]
    · simp [Numeral.denoted?, Numeral.isIntegral, Text.ofDigits_toDigits]
  | negSucc n =>
    refine ⟨⟨true, Nat.toDigits 10 (n + 1), none, none⟩, wellFormed_toDigits true, ?_, ?_⟩
    · change ("-" ++ toString (n + 1)).toList = _
      simp [Numeral.source, Numeral.fractionSource, Numeral.exponentSource]
    · simp [Numeral.denoted?, Numeral.isIntegral, Text.ofDigits_toDigits, Int.negSucc_eq,
        add_comm]

end Number

namespace Binary64

open Json (Numeral IsDigits)
open Text (ofDigits)

/-! ## Layouts -/

/-- A numeral with digits `ds` of which the first counts `10 ^ e`. -/
structure Spells (ds : List Char) (e : ℤ) (x : Numeral) : Prop where
  wellFormed : x.WellFormed
  not_negative : x.negative = false
  not_integral : x.isIntegral = false
  value : decimalValue x.significand x.lastPlace = decimalValue (ofDigits ds) (e + 1 - ds.length)

variable {ds : List Char} {e : ℤ}

/-- **Digits behind a point** and zeros, for a number below one. -/
theorem spells_below_one (hds : IsDigits ds) (he : e < 0) :
    Spells ds e ⟨false, ['0'], some (List.replicate (-e - 1).toNat '0' ++ ds), none⟩ where
  wellFormed := {
    whole := by simp [IsDigits]
    leading := fun _ => rfl
    fraction := by
      rintro _ ⟨⟩
      refine ⟨by simp [hds.1], fun c hc => ?_⟩
      exact (List.mem_append.1 hc).elim Json.isDigit_of_mem_zeros (hds.2 c)
    exponent := by rintro sign ds ⟨⟩ }
  not_negative := rfl
  not_integral := rfl
  value := by
    have hsignificand :
        ofDigits ('0' :: List.replicate (-e - 1).toNat '0' ++ ds) = ofDigits ds := by
      rw [← List.replicate_succ, Text.ofDigits_append, Text.ofDigits_replicate_zero, Nat.zero_mul,
        Nat.zero_add]
    simp only [Numeral.significand, Numeral.lastPlace, Numeral.writtenExponent, Option.getD_some,
      List.cons_append, List.nil_append, List.length_append, List.length_replicate]
    rw [← List.cons_append, hsignificand]
    congr 1
    omega

/-- **Digits before a point,** with zeros behind them. -/
theorem spells_padded (hds : IsDigits ds) (hhead : ds.head? ≠ some '0') (he : 0 ≤ e)
    (hlen : ds.length ≤ e.toNat + 1) :
    Spells ds e
      ⟨false, ds ++ List.replicate (e.toNat + 1 - ds.length) '0', some ['0'], none⟩ where
  wellFormed := {
    whole := by
      refine ⟨by simp [hds.1], fun c hc => ?_⟩
      exact (List.mem_append.1 hc).elim (hds.2 c) Json.isDigit_of_mem_zeros
    leading := by
      rw [List.head?_append_of_ne_nil _ hds.1]
      exact fun h => absurd h hhead
    fraction := by
      rintro _ ⟨⟩
      simp [IsDigits]
    exponent := by rintro sign ds ⟨⟩ }
  not_negative := rfl
  not_integral := rfl
  value := by
    have hzeros : List.replicate (e.toNat + 1 - ds.length) '0' ++ ['0'] =
        List.replicate (e.toNat + 1 - ds.length + 1) '0' := List.replicate_succ'.symm
    simp only [Numeral.significand, Numeral.lastPlace, Numeral.writtenExponent, Option.getD_some,
      List.append_assoc, hzeros, Text.ofDigits_append, Text.ofDigits_replicate_zero, Nat.add_zero,
      List.length_replicate, List.length_singleton, decimalValue_mul_ten_pow]
    congr 1
    omega

/-- **Digits on both sides of a point.** -/
theorem spells_cut (hds : IsDigits ds) (hhead : ds.head? ≠ some '0') (he : 0 ≤ e)
    (hlen : e.toNat + 1 < ds.length) :
    Spells ds e ⟨false, ds.take (e.toNat + 1), some (ds.drop (e.toNat + 1)), none⟩ where
  wellFormed := {
    whole := ⟨by simp [hds.1], fun c hc => hds.2 c (List.mem_of_mem_take hc)⟩
    leading := fun h => absurd (by simpa [List.head?_take] using h) hhead
    fraction := by
      rintro _ ⟨⟩
      exact ⟨by simpa using hlen, fun c hc => hds.2 c (List.mem_of_mem_drop hc)⟩
    exponent := by rintro sign ds ⟨⟩ }
  not_negative := rfl
  not_integral := rfl
  value := by
    simp only [Numeral.significand, Numeral.lastPlace, Numeral.writtenExponent, Option.getD_some,
      List.take_append_drop, List.length_drop]
    congr 1
    omega

/-- The fraction behind the first digit. -/
def behindFirst : List Char → Option (List Char)
  | _ :: d :: rest => some (d :: rest)
  | _ => none

/-- The first digit and the fraction behind it are all digits. -/
theorem take_one_append_behindFirst (ds : List Char) :
    ds.take 1 ++ (behindFirst ds).getD [] = ds ∧
      ((behindFirst ds).getD []).length = ds.length - 1 := by
  rcases ds with _ | ⟨c, _ | ⟨d, rest⟩⟩ <;> simp [behindFirst]

/-- The fraction behind the first digit is made of digits. -/
theorem isDigits_of_behindFirst {rest : List Char} (hds : IsDigits ds)
    (h : behindFirst ds = some rest) : IsDigits rest := by
  rcases ds with _ | ⟨c, _ | ⟨d, ds⟩⟩
  · cases h
  · cases h
  · cases h
    exact ⟨List.cons_ne_nil _ _, fun x hx => hds.2 x (.tail _ hx)⟩

/-- **The first digit before a point** and an exponent behind the others. -/
theorem spells_scientific (hds : IsDigits ds) (hhead : ds.head? ≠ some '0') :
    Spells ds e
      ⟨false, ds.take 1, behindFirst ds, some (decide (e < 0), Nat.toDigits 10 e.natAbs)⟩ where
  wellFormed := {
    whole := ⟨by simp [hds.1], fun c hc => hds.2 c (List.mem_of_mem_take hc)⟩
    leading := fun h => absurd (by simpa [List.head?_take] using h) hhead
    fraction := fun rest h => isDigits_of_behindFirst hds h
    exponent := by
      rintro sign _ ⟨⟩
      exact Json.isDigits_toDigits _ }
  not_negative := rfl
  not_integral := by simp [Numeral.isIntegral]
  value := by
    have hpos := List.length_pos_iff.2 hds.1
    simp only [Numeral.significand, Numeral.lastPlace, Numeral.writtenExponent,
      take_one_append_behindFirst, Text.ofDigits_toDigits, decide_eq_true_eq]
    congr 1
    split <;> omega

/-- The digits of a number without the zeros at its end. -/
def trimmedDigits (n : ℕ) : List Char :=
  ((Nat.toDigits 10 n).reverse.dropWhile (· == '0')).reverse

/-- The digits of a number are the trimmed ones and zeros. -/
theorem exists_toDigits_eq (n : ℕ) :
    ∃ z, Nat.toDigits 10 n = trimmedDigits n ++ List.replicate z '0' := by
  refine ⟨((Nat.toDigits 10 n).reverse.takeWhile (· == '0')).length, ?_⟩
  have hzeros : (Nat.toDigits 10 n).reverse.takeWhile (· == '0') =
      List.replicate ((Nat.toDigits 10 n).reverse.takeWhile (· == '0')).length '0' :=
    List.eq_replicate_iff.2
      ⟨rfl, fun c hc => by simpa using List.all_eq_true.1 List.all_takeWhile c hc⟩
  have hsplit :=
    List.takeWhile_append_dropWhile (p := (· == '0')) (l := (Nat.toDigits 10 n).reverse)
  rw [hzeros] at hsplit
  have hreverse := congrArg List.reverse hsplit
  rwa [List.reverse_append, List.reverse_reverse, List.reverse_replicate, eq_comm] at hreverse

/-- A number other than zero has a digit left. -/
theorem trimmedDigits_ne_nil {n : ℕ} (hn : n ≠ 0) : trimmedDigits n ≠ [] := by
  obtain ⟨z, hz⟩ := exists_toDigits_eq n
  intro h
  have hzero := Text.ofDigits_toDigits n
  rw [hz, h, List.nil_append, Text.ofDigits_replicate_zero] at hzero
  exact hn hzero.symm

/-- Trimmed digits are digits. -/
theorem isDigits_trimmedDigits {n : ℕ} (hn : n ≠ 0) : IsDigits (trimmedDigits n) := by
  obtain ⟨z, hz⟩ := exists_toDigits_eq n
  refine ⟨trimmedDigits_ne_nil hn, fun c hc => ?_⟩
  exact (Json.isDigits_toDigits n).2 c (hz ▸ List.mem_append_left _ hc)

/-- The first digit of a number is no zero. -/
theorem head?_trimmedDigits_ne {n : ℕ} (hn : n ≠ 0) : (trimmedDigits n).head? ≠ some '0' := by
  obtain ⟨z, hz⟩ := exists_toDigits_eq n
  rw [← List.head?_append_of_ne_nil _ (trimmedDigits_ne_nil hn), ← hz]
  exact Json.head?_toDigits_ne hn

/-- The zeros at the end of a decimal count into its exponent. -/
theorem decimalValue_trimmedDigits (n : ℕ) (e : ℤ) :
    decimalValue (ofDigits (trimmedDigits n))
      (e + (Nat.toDigits 10 n).length - (trimmedDigits n).length) = decimalValue n e := by
  obtain ⟨z, hz⟩ := exists_toDigits_eq n
  have hvalue := Text.ofDigits_toDigits n
  have hlength := congrArg List.length hz
  rw [hz, Text.ofDigits_append, Text.ofDigits_replicate_zero, List.length_replicate,
    Nat.add_zero] at hvalue
  rw [List.length_append, List.length_replicate] at hlength
  conv_rhs => rw [← hvalue, decimalValue_mul_ten_pow]
  congr 1
  omega

/-- **Every layout** of a decimal is a numeral with its value. -/
theorem Layout.exists_spells (layout : Layout) {x : Decimal} (hx : x.digits ≠ 0) :
    ∃ numeral : Numeral, (layout.text x).toList = numeral.source ∧
      Spells (trimmedDigits x.digits) (x.exponent + (Nat.toDigits 10 x.digits).length - 1)
        numeral := by
  have hdigits := isDigits_trimmedDigits hx
  have hhead := head?_trimmedDigits_ne hx
  unfold Layout.text
  dsimp only
  rw [trimmedDigits] at *
  generalize x.exponent + (Nat.toDigits 10 x.digits).length - 1 = e
  generalize ((Nat.toDigits 10 x.digits).reverse.dropWhile (· == '0')).reverse = ds at *
  split
  · split
    · next he =>
      refine ⟨_, ?_, spells_below_one hdigits he⟩
      simp [Numeral.source, Numeral.fractionSource, Numeral.exponentSource]
    · next he =>
      rcases Nat.lt_or_ge (e.toNat + 1) ds.length with hlen | hlen
      · have hrest : ds.drop (e.toNat + 1) ≠ [] := by simpa using hlen
        refine ⟨_, ?_, spells_cut hdigits hhead (Int.not_lt.1 he) hlen⟩
        simp [Numeral.source, Numeral.fractionSource, Numeral.exponentSource,
          Nat.sub_eq_zero_of_le hlen.le, hlen]
      · have hpadded :
            (ds ++ List.replicate (e.toNat + 1 - ds.length) '0').length = e.toNat + 1 := by
          simpa using Nat.add_sub_cancel' hlen
        refine ⟨_, ?_, spells_padded hdigits hhead (Int.not_lt.1 he) hlen⟩
        rw [List.take_of_length_le hpadded.le, List.drop_of_length_le hpadded.le]
        simp [Numeral.source, Numeral.fractionSource, Numeral.exponentSource]
  · refine ⟨_, ?_, spells_scientific hdigits hhead⟩
    have hsign : (if e < 0 then "e-" else "e+").toList = ['e', if e < 0 then '-' else '+'] := by
      split <;> rfl
    rw [String.toList_append, String.toList_append, hsign]
    rcases ds with _ | ⟨c, _ | ⟨d, rest⟩⟩ <;>
      simp [Numeral.source, Numeral.fractionSource, Numeral.exponentSource, behindFirst]

/-! ## Floats -/

/-- The shortest decimal of a number other than zero is not zero. -/
theorem shortest_digits_ne_zero {x : Binary64} (hx : x.significand ≠ 0) :
    x.shortest.digits ≠ 0 := by
  intro hzero
  have hrounds := shortest_roundsTo hx
  have hnil : decimalValue x.shortest.digits x.shortest.exponent = decimalValue 0 (-401) := by
    simp [hzero, decimalValue]
  rw [hnil] at hrounds
  exact hx (hrounds.eq_zero_of_lt (decimalValue_le_decimalValue (Nat.zero_le 1) _))

/-- The numeral of a float has a fraction or an exponent. -/
theorem exists_numeral (x : Binary64) : ∃ numeral : Numeral, numeral.WellFormed ∧
    x.toText.toList = numeral.source ∧ numeral.denoted? = some (.float x) := by
  have hsign : (if x.negative then "-" else "").toList = if x.negative then ['-'] else [] := by
    split <;> rfl
  unfold toText
  dsimp only
  split
  · next hzero =>
    have hx : zero x.negative = x := eq_zero_of_significand (beq_iff_eq.1 hzero)
    refine ⟨⟨x.negative, ['0'], some ['0'], none⟩, ?_, ?_, ?_⟩
    · constructor <;> simp [IsDigits]
    · rw [String.toList_append, hsign]
      rfl
    · have hread : ofDecimal x.negative 0 (-1) = some x := by
        rw [ofDecimal, if_pos rfl, hx]
      exact congrArg (Option.map Number.float) hread
  · next hzero =>
    have hx : x.significand ≠ 0 := fun h => hzero (beq_iff_eq.2 h)
    obtain ⟨numeral, htext, hspells⟩ :=
      Layout.json.exists_spells (shortest_digits_ne_zero hx)
    have hvalue : decimalValue numeral.significand numeral.lastPlace =
        decimalValue x.shortest.digits x.shortest.exponent := by
      rw [hspells.value, sub_add_cancel, decimalValue_trimmedDigits]
    refine ⟨{ numeral with negative := x.negative }, ?_, ?_, ?_⟩
    · exact ⟨hspells.wellFormed.whole, hspells.wellFormed.leading, hspells.wellFormed.fraction,
        hspells.wellFormed.exponent⟩
    · rw [String.toList_append, hsign, htext, Numeral.source, hspells.not_negative]
      rfl
    · have hread := ofDecimal_of_roundsTo x (hvalue ▸ shortest_roundsTo hx)
      have hintegral : ({ numeral with negative := x.negative } : Numeral).isIntegral = false :=
        hspells.not_integral
      rw [Numeral.denoted?, hintegral]
      exact congrArg (Option.map Number.float) hread

end Binary64

namespace Number

/-- **Every number is written** as a numeral that denotes it. -/
theorem exists_numeral (n : Number) : ∃ x : Json.Numeral, x.WellFormed ∧
    n.toText.toList = x.source ∧ x.denoted? = some n := by
  cases n with
  | integer n => exact exists_numeral_integer n
  | float x => exact x.exists_numeral

/-- **The alphabet of numbers:** they are written in digits, signs, points and an `e`. -/
theorem isNumeralChar_of_mem_toText {n : Number} {c : Char} (h : c ∈ n.toText.toList) :
    Json.Numeral.isNumeralChar c := by
  obtain ⟨x, hx, htext, -⟩ := n.exists_numeral
  exact Json.Numeral.isNumeralChar_of_mem_source hx (htext ▸ h)

end Number
end Pagewright
