import Mathlib.Algebra.Order.Field.Basic
import Mathlib.Data.Nat.MaxPowDiv
import Mathlib.Data.Rat.Cast.Order
import Mathlib.Data.Rat.Floor
import Mathlib.Tactic.FieldSimp
import Mathlib.Tactic.Ring

/-- `0.d₁d₂…dₖ × 10 ^ point`, where `d₁d₂…dₖ` are the digits of `significand`. -/
structure Decimal where
  negative : Bool
  significand : Nat
  point : Int
  normal : significand % 10 ≠ 0
  deriving DecidableEq

inductive Number
  | zero
  | decimal (d : Decimal)
  deriving DecidableEq

structure Literal where
  integer : List Char
  fraction : List Char
  exponent : Option Int

def exponentText : Option Int → List Char
  | none => []
  | some e => 'e' :: (if e < 0 then '-' else '+') :: Nat.toDigits 10 e.natAbs

def fractionText : List Char → List Char
  | [] => []
  | c :: cs => '.' :: c :: cs

namespace Literal

def text (l : Literal) : List Char :=
  l.integer ++ (fractionText l.fraction ++ exponentText l.exponent)

def value (l : Literal) : ℚ :=
  (Nat.ofDigitChars 10 (l.integer ++ l.fraction) 0 : ℚ) *
    10 ^ (l.exponent.getD 0 - l.fraction.length)

structure Digits (l : Literal) : Prop where
  integer : ∀ c ∈ l.integer, c.isDigit
  fraction : ∀ c ∈ l.fraction, c.isDigit
  nonempty : l.integer ≠ []

end Literal

namespace Decimal

def digits (d : Decimal) : List Char := Nat.toDigits 10 d.significand

def literal (d : Decimal) : Literal :=
  if d.digits.length ≤ d.point ∧ d.point ≤ 21 then
    ⟨d.digits ++ List.replicate (d.point.toNat - d.digits.length) '0', [], none⟩
  else if 0 < d.point ∧ d.point ≤ 21 then
    ⟨d.digits.take d.point.toNat, d.digits.drop d.point.toNat, none⟩
  else if -6 < d.point ∧ d.point ≤ 0 then
    ⟨['0'], List.replicate (-d.point).toNat '0' ++ d.digits, none⟩
  else
    ⟨d.digits.take 1, d.digits.drop 1, some (d.point - 1)⟩

def magnitude (d : Decimal) : ℚ := d.significand * 10 ^ (d.point - d.digits.length)

end Decimal

namespace Number

def literal : Number → Literal
  | zero => ⟨['0'], [], none⟩
  | decimal d => d.literal

def negative : Number → Bool
  | zero => false
  | decimal d => d.negative

/-- `Number::toString`. -/
def text (x : Number) : List Char := if x.negative then '-' :: x.literal.text else x.literal.text

def magnitude : Number → ℚ
  | zero => 0
  | decimal d => d.magnitude

def value (x : Number) : ℚ := if x.negative then -x.magnitude else x.magnitude

/-- `round (10 ^ places * x)`, halves away from zero. -/
def scaled (places : Nat) : Number → Int
  | zero => 0
  | decimal d =>
    let exponent := d.point - d.digits.length + places
    let n :=
      if 0 ≤ exponent then d.significand * 10 ^ exponent.toNat
      else (d.significand + 10 ^ (-exponent).toNat / 2) / 10 ^ (-exponent).toNat
    if d.negative then -n else n

/-- The trailing zeros of `n` go into the exponent. -/
def ofNat (n : Nat) : Number :=
  if h : n = 0 then zero
  else
    decimal
      { negative := false
        significand := n.divMaxPow 10
        point := (Nat.toDigits 10 (n.divMaxPow 10)).length + padicValNat 10 n
        normal := fun hmod =>
          Nat.not_dvd_divMaxPow (by decide) h (Nat.dvd_of_mod_eq_zero hmod) }

def neg : Number → Number
  | zero => zero
  | decimal d => decimal { d with negative := !d.negative }

def ofInt : Int → Number
  | .ofNat n => ofNat n
  | .negSucc n => (ofNat (n + 1)).neg

end Number

section Span

variable {p : Char → Bool} {xs ys r r' : List Char}

def Stops (p : Char → Bool) (r : List Char) : Prop := ∀ c ∈ r.head?, p c = false

@[simp] theorem stops_nil : Stops p [] := by simp [Stops]

@[simp] theorem stops_cons {c : Char} : Stops p (c :: r) ↔ p c = false := by simp [Stops]

theorem append_inj_of_stops (hxs : ∀ c ∈ xs, p c) (hys : ∀ c ∈ ys, p c) (hr : Stops p r)
    (hr' : Stops p r') (h : xs ++ r = ys ++ r') : xs = ys ∧ r = r' := by
  induction xs generalizing ys with
  | nil =>
    cases ys with
    | nil => exact ⟨rfl, h⟩
    | cons y ys =>
      rw [← List.nil_append r, h, List.cons_append, stops_cons] at hr
      simp [hys y List.mem_cons_self] at hr
  | cons x xs ih =>
    cases ys with
    | nil =>
      rw [← List.nil_append r', ← h, List.cons_append, stops_cons] at hr'
      simp [hxs x List.mem_cons_self] at hr'
    | cons y ys =>
      obtain ⟨rfl, htail⟩ := List.cons.inj h
      obtain ⟨rfl, rfl⟩ := ih (fun c hc => hxs c (List.mem_cons_of_mem x hc))
        (fun c hc => hys c (List.mem_cons_of_mem x hc)) htail
      exact ⟨rfl, rfl⟩

theorem dropWhile_of_stops (h : Stops p r) : r.dropWhile p = r := by
  cases r with
  | nil => rfl
  | cons c cs => rw [List.dropWhile_cons, stops_cons.mp h, if_neg Bool.false_ne_true]

theorem takeWhile_of_stops (h : Stops p r) : r.takeWhile p = [] := by
  cases r with
  | nil => rfl
  | cons c cs => rw [List.takeWhile_cons, stops_cons.mp h, if_neg Bool.false_ne_true]

theorem stops_dropWhile : Stops p (xs.dropWhile p) := by
  intro c hc
  have := List.head?_dropWhile_not p xs
  rw [Option.mem_def.mp hc] at this
  exact this

theorem Stops.of_isPrefix (h : Stops p r) (hle : r' <+: r) : Stops p r' := by
  cases r' with
  | nil => exact stops_nil
  | cons c cs =>
    obtain ⟨rest, rfl⟩ := hle
    exact h

end Span

theorem stops_exponentText (e : Option Int) : Stops Char.isDigit (exponentText e) := by
  cases e <;> simp [exponentText, Char.isDigit]

theorem stops_fractionText (f : List Char) (e : Option Int) :
    Stops Char.isDigit (fractionText f ++ exponentText e) := by
  cases f with
  | nil => exact stops_exponentText e
  | cons c cs => simp [fractionText, Char.isDigit]

theorem exponentText_injective : Function.Injective exponentText := by
  intro e e' h
  cases e with
  | none => cases e' <;> simp_all [exponentText]
  | some e =>
    cases e' with
    | none => simp [exponentText] at h
    | some e' =>
      simp only [exponentText, List.cons.injEq, true_and] at h
      have habs : e.natAbs = e'.natAbs := by
        rw [← Nat.ofDigitChars_ten_toDigits (n := e.natAbs), h.2, Nat.ofDigitChars_ten_toDigits]
      have hsign := h.1
      congr 1
      split at hsign <;> split at hsign <;> first | omega | simp at hsign

theorem ofDigitChars_lt {cs : List Char} (h : ∀ c ∈ cs, c.isDigit) :
    Nat.ofDigitChars 10 cs 0 < 10 ^ cs.length := by
  induction cs with
  | nil => simp
  | cons c cs ih =>
    have hrest := ih fun d hd => h d (List.mem_cons_of_mem c hd)
    have hdigit : c.toNat - '0'.toNat < 10 := by
      have hc := h c List.mem_cons_self
      simp only [Char.isDigit, Bool.and_eq_true, decide_eq_true_eq] at hc
      have hle : c.toNat ≤ 57 := hc.2
      have hzero : '0'.toNat = 48 := rfl
      omega
    rw [Nat.ofDigitChars_cons, Nat.ofDigitChars_eq_ofDigitChars_zero, List.length_cons, pow_succ,
      Nat.mul_zero, Nat.zero_add]
    have hlead := Nat.mul_le_mul_left (10 ^ cs.length) (Nat.le_of_lt_succ hdigit)
    omega

namespace Literal

variable {l l' : Literal}

theorem text_inj (hl : l.Digits) (hl' : l'.Digits) (h : l.text = l'.text) : l = l' := by
  obtain ⟨i, f, e⟩ := l
  obtain ⟨i', f', e'⟩ := l'
  obtain ⟨rfl, hrest⟩ := append_inj_of_stops hl.integer hl'.integer (stops_fractionText f e)
    (stops_fractionText f' e') h
  cases f with
  | nil =>
    cases f' with
    | nil => rw [exponentText_injective hrest]
    | cons c cs => cases e <;> simp [fractionText, exponentText] at hrest
  | cons c cs =>
    cases f' with
    | nil => cases e' <;> simp [fractionText, exponentText] at hrest
    | cons c' cs' =>
      obtain ⟨hf, he⟩ := append_inj_of_stops hl.fraction hl'.fraction (stops_exponentText e)
        (stops_exponentText e') (List.cons.inj hrest).2
      simp only [mk.injEq, true_and]
      exact ⟨hf, exponentText_injective he⟩

theorem floor_value (hl : l.Digits) (hexp : l.exponent = none) :
    ⌊l.value⌋ = Nat.ofDigitChars 10 l.integer 0 := by
  have hfraction := ofDigitChars_lt hl.fraction
  have hpow : (0 : ℚ) < 10 ^ l.fraction.length := by positivity
  have hvalue : l.value = Nat.ofDigitChars 10 l.integer 0 +
      Nat.ofDigitChars 10 l.fraction 0 / 10 ^ l.fraction.length := by
    rw [Literal.value, hexp, Nat.ofDigitChars_append, Nat.ofDigitChars_eq_ofDigitChars_zero,
      Option.getD_none, zero_sub, zpow_neg, zpow_natCast]
    push_cast
    field_simp
  rw [hvalue, Int.floor_eq_iff]
  refine ⟨le_add_of_nonneg_right (by positivity), (add_lt_add_iff_left _).mpr ?_⟩
  rw [div_lt_one hpow]
  exact_mod_cast hfraction

end Literal

namespace Decimal

variable (d : Decimal)

theorem isDigit_of_mem_digits {c : Char} (h : c ∈ d.digits) : c.isDigit :=
  Nat.isDigit_of_mem_toDigits (by decide) (by decide) h

theorem length_digits_pos : 0 < d.digits.length := Nat.length_toDigits_pos

@[simp] theorem ofDigitChars_digits : Nat.ofDigitChars 10 d.digits 0 = d.significand :=
  Nat.ofDigitChars_ten_toDigits

theorem isDigit_of_mem_zeros {n : Nat} {c : Char} (h : c ∈ List.replicate n '0') : c.isDigit := by
  rw [List.eq_of_mem_replicate h]
  rfl

theorem literal_digits : d.literal.Digits := by
  have hpos := d.length_digits_pos
  have hdigits := fun c => d.isDigit_of_mem_digits (c := c)
  have hne : d.digits ≠ [] := List.ne_nil_of_length_pos hpos
  unfold literal
  split
  · exact ⟨fun c hc => (List.mem_append.mp hc).elim (hdigits c) isDigit_of_mem_zeros,
      by simp, by simp [hne]⟩
  · split
    · exact ⟨fun c hc => hdigits c (List.mem_of_mem_take hc),
        fun c hc => hdigits c (List.mem_of_mem_drop hc), by simp [hne]; omega⟩
    · split
      · exact ⟨by simp [Char.isDigit], fun c hc => (List.mem_append.mp hc).elim
          isDigit_of_mem_zeros (hdigits c), by simp⟩
      · exact ⟨fun c hc => hdigits c (List.mem_of_mem_take hc),
          fun c hc => hdigits c (List.mem_of_mem_drop hc), by simp [hne]⟩

theorem literal_value : d.literal.value = d.magnitude := by
  have hpos := d.length_digits_pos
  unfold literal magnitude
  split
  · next h =>
    have hzeros : ((d.point.toNat - d.digits.length : ℕ) : ℤ) = d.point - d.digits.length := by
      omega
    simp only [Literal.value, List.append_nil, Nat.ofDigitChars_append, ofDigitChars_digits,
      Nat.ofDigitChars_replicate_zero, Option.getD_none, List.length_nil, Nat.cast_zero, sub_zero,
      zpow_zero, mul_one, Nat.cast_mul, Nat.cast_pow, Nat.cast_ofNat]
    rw [← hzeros, zpow_natCast, mul_comm]
  · split
    · next h =>
      have hdrop : ((d.digits.drop d.point.toNat).length : ℤ) = d.digits.length - d.point := by
        rw [List.length_drop]
        omega
      simp only [Literal.value, List.take_append_drop, ofDigitChars_digits, Option.getD_none, hdrop]
      congr 2
      omega
    · split
      · next h =>
        have hlen : ((List.replicate (-d.point).toNat '0' ++ d.digits).length : ℤ) =
            d.digits.length - d.point := by
          rw [List.length_append, List.length_replicate]
          omega
        have hvalue : Nat.ofDigitChars 10
            (['0'] ++ (List.replicate (-d.point).toNat '0' ++ d.digits)) 0 = d.significand := by
          simp [Nat.ofDigitChars_append, Nat.ofDigitChars_cons]
        simp only [Literal.value, hvalue, Option.getD_none, hlen]
        congr 2
        omega
      · have hdrop : ((d.digits.drop 1).length : ℤ) = d.digits.length - 1 := by
          rw [List.length_drop]
          omega
        simp only [Literal.value, List.take_append_drop, ofDigitChars_digits, Option.getD_some,
          hdrop]
        congr 2
        omega

theorem significand_pos : 0 < d.significand := by
  have := d.normal
  omega

theorem magnitude_pos : 0 < d.magnitude :=
  mul_pos (by exact_mod_cast d.significand_pos) (zpow_pos (by norm_num) _)

theorem magnitude_lt : d.magnitude < 10 ^ d.point := by
  have hlt : d.significand < 10 ^ d.digits.length :=
    (Nat.length_toDigits_le_iff (by decide) d.length_digits_pos).mp le_rfl
  have hpow : (0 : ℚ) < 10 ^ (d.point - d.digits.length) := zpow_pos (by norm_num) _
  calc
    d.magnitude < 10 ^ d.digits.length * 10 ^ (d.point - d.digits.length) :=
      mul_lt_mul_of_pos_right (by exact_mod_cast hlt) hpow
    _ = 10 ^ d.point := by
      rw [← zpow_natCast, ← zpow_add₀ (by norm_num), add_sub_cancel]

theorem le_magnitude : 10 ^ (d.point - 1) ≤ d.magnitude := by
  have hpos := d.length_digits_pos
  have hle : 10 ^ (d.digits.length - 1) ≤ d.significand := by
    rcases Nat.eq_zero_or_pos (d.digits.length - 1) with hone | hmore
    · rw [hone]
      exact d.significand_pos
    · by_contra hlt
      have := (Nat.length_toDigits_le_iff (by decide) hmore).mpr (not_le.mp hlt)
      unfold digits at *
      omega
  have hpow : (0 : ℚ) < 10 ^ (d.point - d.digits.length) := zpow_pos (by norm_num) _
  calc
    (10 : ℚ) ^ (d.point - 1) =
        10 ^ (d.digits.length - 1) * 10 ^ (d.point - d.digits.length) := by
      rw [← zpow_natCast, ← zpow_add₀ (by norm_num)]
      congr 1
      omega
    _ ≤ d.magnitude := mul_le_mul_of_nonneg_right (by exact_mod_cast hle) hpow.le

theorem exponent_eq_none (h : 1 ≤ d.magnitude) (hlt : d.magnitude < 10 ^ 21) :
    d.literal.exponent = none := by
  have hpos : 0 < d.point := by
    have hpow : (10 : ℚ) ^ (0 : ℤ) < 10 ^ d.point := by
      rw [zpow_zero]
      exact h.trans_lt d.magnitude_lt
    exact (zpow_lt_zpow_iff_right₀ (by norm_num)).mp hpow
  have hle : d.point ≤ 21 := by
    have hpow : (10 : ℚ) ^ (d.point - 1) < 10 ^ (21 : ℤ) :=
      d.le_magnitude.trans_lt (by exact_mod_cast hlt)
    have := (zpow_lt_zpow_iff_right₀ (by norm_num)).mp hpow
    omega
  unfold literal
  split
  · rfl
  · rw [if_pos ⟨hpos, hle⟩]

theorem length_integer_le : d.literal.integer.length ≤ 21 := by
  unfold literal
  split
  · rw [List.length_append, List.length_replicate]
    omega
  · split
    · rw [List.length_take]
      omega
    · split
      · simp
      · simp [List.length_take]

theorem scale_inj {m n : ℕ} {a b : ℤ} (hm : m % 10 ≠ 0) (hn : n % 10 ≠ 0) (hab : a ≤ b)
    (h : (m * 10 ^ a : ℚ) = n * 10 ^ b) : m = n ∧ a = b := by
  obtain ⟨k, rfl⟩ := Int.le.dest hab
  have hshift : (m : ℚ) = n * 10 ^ k := by
    rw [zpow_add₀ (by norm_num), zpow_natCast, mul_comm (10 ^ a), ← mul_assoc] at h
    exact mul_right_cancel₀ (zpow_ne_zero a (by norm_num)) h
  have hnat : m = n * 10 ^ k := by exact_mod_cast hshift
  cases k with
  | zero => simpa using hnat
  | succ k =>
    rw [pow_succ, ← mul_assoc] at hnat
    omega

theorem magnitude_inj {d d' : Decimal} (hnegative : d.negative = d'.negative)
    (h : d.magnitude = d'.magnitude) : d = d' := by
  obtain ⟨s, m, n, hm⟩ := d
  obtain ⟨s', m', n', hm'⟩ := d'
  have hscale : m = m' ∧ n - (Nat.toDigits 10 m).length = n' - (Nat.toDigits 10 m').length := by
    rcases le_total (n - (Nat.toDigits 10 m).length) (n' - (Nat.toDigits 10 m').length) with
      hle | hle
    · exact scale_inj hm hm' hle h
    · obtain ⟨hsig, hpoint⟩ := scale_inj hm' hm hle h.symm
      exact ⟨hsig.symm, hpoint.symm⟩
  obtain ⟨rfl, hpoint⟩ := hscale
  obtain rfl : s = s' := hnegative
  obtain rfl : n = n' := by omega
  rfl

end Decimal

namespace Number

variable (x : Number)

theorem literal_digits : x.literal.Digits := by
  cases x with
  | zero => exact ⟨by simp [literal, Char.isDigit], by simp [literal], by simp [literal]⟩
  | decimal d => exact d.literal_digits

theorem literal_value : x.literal.value = x.magnitude := by
  cases x with
  | zero => simp [literal, Literal.value, magnitude, Nat.ofDigitChars_cons]
  | decimal d => exact d.literal_value

theorem exists_literal_text : ∃ c cs, x.literal.text = c :: cs ∧ c.isDigit := by
  have hdigits := x.literal_digits
  obtain ⟨c, cs, hinteger⟩ := List.exists_cons_of_ne_nil hdigits.nonempty
  refine ⟨c, cs ++ (fractionText x.literal.fraction ++ exponentText x.literal.exponent), ?_,
    hdigits.integer c (by rw [hinteger]; exact List.mem_cons_self)⟩
  rw [Literal.text, hinteger, List.cons_append]

@[simp] theorem value_ofNat (n : Nat) : (ofNat n).value = n := by
  unfold ofNat
  split
  · next h => rw [h]; rfl
  · rw [value, negative, if_neg Bool.false_ne_true, magnitude, Decimal.magnitude, Decimal.digits,
      add_sub_cancel_left, zpow_natCast]
    exact_mod_cast Nat.divMaxPow_mul_pow_padicValNat 10 n

theorem text_ne_nil : x.text ≠ [] := by
  obtain ⟨c, cs, htext, -⟩ := x.exists_literal_text
  unfold text
  split <;> simp [htext]

theorem magnitude_inj {x y : Number} (hnegative : x.negative = y.negative)
    (h : x.magnitude = y.magnitude) : x = y := by
  cases x with
  | zero =>
    cases y with
    | zero => rfl
    | decimal d => exact absurd h d.magnitude_pos.ne
  | decimal d =>
    cases y with
    | zero => exact absurd h d.magnitude_pos.ne'
    | decimal d' => exact congrArg decimal (Decimal.magnitude_inj hnegative h)

theorem text_injective : Function.Injective text := by
  intro x y h
  obtain ⟨c, cs, hx, hc⟩ := x.exists_literal_text
  obtain ⟨c', cs', hy, hc'⟩ := y.exists_literal_text
  -- A literal starts with a digit, so the sign is read off the first character.
  have hsigned : x.negative = y.negative ∧ x.literal.text = y.literal.text := by
    unfold text at h
    cases hxneg : x.negative <;> cases hyneg : y.negative <;>
      simp only [hxneg, hyneg, if_true, Bool.false_eq_true, if_false] at h
    · exact ⟨rfl, h⟩
    · rw [hx] at h
      rw [(List.cons.inj h).1] at hc
      exact absurd hc (by decide)
    · rw [hy] at h
      rw [← (List.cons.inj h).1] at hc'
      exact absurd hc' (by decide)
    · exact ⟨rfl, (List.cons.inj h).2⟩
  have hliteral := Literal.text_inj x.literal_digits y.literal_digits hsigned.2
  apply magnitude_inj hsigned.1
  rw [← literal_value, ← literal_value, hliteral]

def isNumeric (c : Char) : Bool := c.isDigit || c = '-' || c = '.' || c = 'e' || c = '+'

theorem isNumeric_of_isDigit {c : Char} (h : c.isDigit) : isNumeric c := by simp [isNumeric, h]

theorem isNumeric_of_mem_text {c : Char} (h : c ∈ x.text) : isNumeric c := by
  have hdigits := x.literal_digits
  have hfraction : ∀ f : List Char, (∀ c ∈ f, c.isDigit) → ∀ c ∈ fractionText f, isNumeric c := by
    intro f hf c hc
    cases f with
    | nil => simp [fractionText] at hc
    | cons d ds =>
      rcases List.mem_cons.mp hc with rfl | hc
      · rfl
      · exact isNumeric_of_isDigit (hf c hc)
  have hexponent : ∀ e : Option Int, ∀ c ∈ exponentText e, isNumeric c := by
    intro e c hc
    cases e with
    | none => simp [exponentText] at hc
    | some e =>
      simp only [exponentText, List.mem_cons] at hc
      rcases hc with rfl | rfl | hc
      · rfl
      · split <;> rfl
      · exact isNumeric_of_isDigit (Nat.isDigit_of_mem_toDigits (by decide) (by decide) hc)
  have hsign : c = '-' ∨ c ∈ x.literal.text := by
    unfold text at h
    split at h
    · exact List.mem_cons.mp h
    · exact .inr h
  rw [Literal.text, List.mem_append, List.mem_append] at hsign
  rcases hsign with rfl | h | h | h
  · rfl
  · exact isNumeric_of_isDigit (hdigits.integer c h)
  · exact hfraction _ hdigits.fraction c h
  · exact hexponent _ c h

@[simp] theorem value_neg : x.neg.value = -x.value := by
  cases x with
  | zero => simp [neg, value, negative, magnitude]
  | decimal d =>
    cases h : d.negative <;>
      simp [neg, value, negative, magnitude, Decimal.magnitude, Decimal.digits, h]

@[simp] theorem value_ofInt (n : Int) : (ofInt n).value = n := by
  cases n with
  | ofNat n => simp [ofInt]
  | negSucc n => simp [ofInt, Int.negSucc_eq]

theorem negative_iff : x.negative ↔ x.value < 0 := by
  cases x with
  | zero => simp [value, negative, magnitude]
  | decimal d =>
    have hpos := d.magnitude_pos
    cases h : d.negative
    · simpa [value, negative, magnitude, h] using hpos.le
    · simpa [value, negative, magnitude, h] using hpos

theorem value_injective : Function.Injective value := by
  intro x y h
  have hnegative : x.negative = y.negative := by
    rw [Bool.eq_iff_iff, negative_iff, negative_iff, h]
  apply magnitude_inj hnegative
  unfold value at h
  split at h <;> split at h <;> simp_all

theorem not_negative (h : 0 ≤ x.value) : x.negative = false :=
  Bool.eq_false_iff.mpr fun hnegative => not_lt.mpr h (x.negative_iff.mp hnegative)

theorem magnitude_eq_value (h : 0 ≤ x.value) : x.magnitude = x.value := by
  rw [value, x.not_negative h, if_neg Bool.false_ne_true]

theorem length_integer_le : x.literal.integer.length ≤ 21 := by
  cases x with
  | zero => simp [literal]
  | decimal d => exact d.length_integer_le

theorem ofDigitChars_integer (h : 1 ≤ x.value) (hlt : x.value < 10 ^ 21) :
    (Nat.ofDigitChars 10 x.literal.integer 0 : ℤ) = ⌊x.value⌋ := by
  have hvalue := x.magnitude_eq_value (zero_le_one.trans h)
  rw [← hvalue] at h hlt ⊢
  have hexp : x.literal.exponent = none := by
    cases x with
    | zero => rfl
    | decimal d => exact d.exponent_eq_none h hlt
  rw [← x.literal_value, Literal.floor_value x.literal_digits hexp]

end Number
