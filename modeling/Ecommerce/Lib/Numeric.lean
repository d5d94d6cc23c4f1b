import Ecommerce.Lib.Number
import Mathlib.Data.List.DropRight
import Mathlib.Order.WithBot

inductive Numeric
  | nan
  | infinity (negative : Bool)
  | finite (x : Number)
  deriving DecidableEq

namespace Numeric

def ofInt (n : Int) : Numeric := finite (.ofInt n)

instance (n : Nat) : OfNat Numeric n := ⟨ofInt n⟩

def rank : Numeric → WithBot (WithTop ℚ)
  | nan => ⊥
  | infinity negative => if negative then ⊥ else ((⊤ : WithTop ℚ) : WithBot (WithTop ℚ))
  | finite x => ((x.value : WithTop ℚ) : WithBot (WithTop ℚ))

instance : LE Numeric := ⟨fun a b => a ≠ nan ∧ b ≠ nan ∧ a.rank ≤ b.rank⟩

instance : DecidableLE Numeric := fun a b =>
  inferInstanceAs (Decidable (a ≠ nan ∧ b ≠ nan ∧ a.rank ≤ b.rank))

/-- `Math.max`. -/
instance : Max Numeric := ⟨fun a b => if a = nan ∨ b = nan then nan else if a ≤ b then b else a⟩

/-- `Math.min`. -/
instance : Min Numeric := ⟨fun a b => if a = nan ∨ b = nan then nan else if a ≤ b then a else b⟩

/-- `a || b`. -/
def or (a b : Numeric) : Numeric := if a = nan ∨ a = 0 then b else a

/-- `Number::toString`. -/
def text : Numeric → String
  | nan => "NaN"
  | infinity negative => if negative then "-Infinity" else "Infinity"
  | finite x => String.ofList x.text

/-- `Math.floor`. -/
def floor : Numeric → Numeric
  | finite x => ofInt ⌊x.value⌋
  | a => a

def IsInteger (a : Numeric) : Prop := ∃ n, a = ofInt n

variable {a b c : Numeric} {m n : Int}

theorem ofInt_injective : Function.Injective ofInt := by
  intro m n h
  have hvalue := congrArg Number.value (finite.inj h)
  rw [Number.value_ofInt, Number.value_ofInt] at hvalue
  exact_mod_cast hvalue

theorem ofInt_inj : ofInt m = ofInt n ↔ m = n := ofInt_injective.eq_iff

@[simp] theorem ofInt_ne_nan : ofInt n ≠ nan := nofun

theorem finite_le_finite {x y : Number} : finite x ≤ finite y ↔ x.value ≤ y.value := by
  change _ ∧ _ ∧ _ ≤ _ ↔ _
  simp [rank]

theorem ofInt_le_ofInt : ofInt m ≤ ofInt n ↔ m ≤ n := by
  rw [ofInt, ofInt, finite_le_finite, Number.value_ofInt, Number.value_ofInt, Int.cast_le]

theorem rank_inj (ha : a ≠ nan) (hb : b ≠ nan) (h : a.rank = b.rank) : a = b := by
  cases a with
  | nan => exact absurd rfl ha
  | infinity negative =>
    cases b with
    | nan => exact absurd rfl hb
    | infinity negative' => cases negative <;> cases negative' <;> simp_all [rank]
    | finite y => cases negative <;> simp [rank] at h
  | finite x =>
    cases b with
    | nan => exact absurd rfl hb
    | infinity negative' => cases negative' <;> simp [rank] at h
    | finite y =>
      have hvalue : x.value = y.value := by simpa [rank] using h
      rw [Number.value_injective hvalue]

protected theorem le_refl (ha : a ≠ nan) : a ≤ a := ⟨ha, ha, le_rfl⟩

protected theorem le_trans (hab : a ≤ b) (hbc : b ≤ c) : a ≤ c :=
  ⟨hab.1, hbc.2.1, hab.2.2.trans hbc.2.2⟩

protected theorem le_antisymm (hab : a ≤ b) (hba : b ≤ a) : a = b :=
  rank_inj hab.1 hba.1 (hab.2.2.antisymm hba.2.2)

protected theorem le_of_not_le (ha : a ≠ nan) (hb : b ≠ nan) (h : ¬a ≤ b) : b ≤ a :=
  ⟨hb, ha, (not_le.mp fun hle => h ⟨ha, hb, hle⟩).le⟩

theorem max_eq_ite (ha : a ≠ nan) (hb : b ≠ nan) : max a b = if a ≤ b then b else a :=
  if_neg (not_or.mpr ⟨ha, hb⟩)

theorem min_eq_ite (ha : a ≠ nan) (hb : b ≠ nan) : min a b = if a ≤ b then a else b :=
  if_neg (not_or.mpr ⟨ha, hb⟩)

theorem min_nan : min a nan = nan := if_pos (.inr rfl)

protected theorem le_max_left (ha : a ≠ nan) (hb : b ≠ nan) : a ≤ max a b := by
  rw [max_eq_ite ha hb]
  split
  · assumption
  · exact Numeric.le_refl ha

protected theorem max_eq_right (h : a ≤ b) : max a b = b := by
  rw [max_eq_ite h.1 h.2.1, if_pos h]

protected theorem min_eq_left (h : a ≤ b) : min a b = a := by
  rw [min_eq_ite h.1 h.2.1, if_pos h]

protected theorem min_eq_right (h : b ≤ a) : min a b = b := by
  rw [min_eq_ite h.2.1 h.1]
  split
  · next hab => exact Numeric.le_antisymm hab h
  · rfl

theorem min_max_eq_right (hc : c ≤ b) (h : b ≤ a) : min (max c a) b = b := by
  rw [Numeric.max_eq_right (Numeric.le_trans hc h), Numeric.min_eq_right h]

protected theorem le_min (ha : c ≤ a) (hb : c ≤ b) : c ≤ min a b := by
  rw [min_eq_ite ha.2.1 hb.2.1]
  split <;> assumption

protected theorem min_le_left (ha : a ≠ nan) (hb : b ≠ nan) : min a b ≤ a := by
  rw [min_eq_ite ha hb]
  split
  · exact Numeric.le_refl ha
  · next h => exact Numeric.le_of_not_le ha hb h

protected theorem min_le_right (ha : a ≠ nan) (hb : b ≠ nan) : min a b ≤ b := by
  rw [min_eq_ite ha hb]
  split
  · assumption
  · exact Numeric.le_refl hb

theorem max_ofInt : max (ofInt m) (ofInt n) = ofInt (max m n) := by
  rw [max_eq_ite ofInt_ne_nan ofInt_ne_nan, Int.max_def, apply_ite ofInt]
  simp only [ofInt_le_ofInt]

theorem exists_finite (h : ofInt m ≤ a) (hle : a ≤ ofInt n) :
    ∃ x : Number, a = finite x ∧ m ≤ x.value ∧ x.value ≤ n := by
  cases a with
  | nan => exact absurd rfl h.2.1
  | infinity negative =>
    cases negative
    · have htop := hle.2.2
      simp [rank, ofInt] at htop
    · have hbot := h.2.2
      simp [rank, ofInt] at hbot
  | finite x =>
    rw [ofInt, finite_le_finite, Number.value_ofInt] at h hle
    exact ⟨x, rfl, h, hle⟩

theorem exists_floor (h : ofInt m ≤ a) (hle : a ≤ ofInt n) :
    ∃ k, a.floor = ofInt k ∧ m ≤ k ∧ ofInt k ≤ a := by
  obtain ⟨x, rfl, hx, -⟩ := exists_finite h hle
  refine ⟨⌊x.value⌋, rfl, Int.le_floor.mpr hx, ?_⟩
  rw [ofInt, finite_le_finite, Number.value_ofInt]
  exact Int.floor_le x.value

theorem floor_ofInt : (ofInt n).floor = ofInt n := by
  rw [ofInt, floor, Number.value_ofInt, Int.floor_intCast, ofInt]

theorem floor_eq_self_iff (h : ofInt m ≤ a) (hle : a ≤ ofInt n) : a.floor = a ↔ a.IsInteger := by
  constructor
  · intro hfloor
    obtain ⟨k, hk, -⟩ := exists_floor h hle
    exact ⟨k, hfloor.symm.trans hk⟩
  · rintro ⟨k, rfl⟩
    exact floor_ofInt

theorem min_eq_min_iff (ha : a ≠ nan) (hb : b ≠ nan) :
    min a c = min b c ↔ c = nan ∨ a = b ∨ c ≤ a ∧ c ≤ b := by
  by_cases hc : c = nan
  · simp [hc, min_nan]
  constructor
  · intro h
    by_cases hac : a ≤ c <;> by_cases hbc : b ≤ c
    · rw [Numeric.min_eq_left hac, Numeric.min_eq_left hbc] at h
      exact .inr (.inl h)
    · have hcb := Numeric.le_of_not_le hb hc hbc
      rw [Numeric.min_eq_left hac, Numeric.min_eq_right hcb] at h
      exact .inr (.inr ⟨h ▸ Numeric.le_refl ha, hcb⟩)
    · have hca := Numeric.le_of_not_le ha hc hac
      rw [Numeric.min_eq_right hca, Numeric.min_eq_left hbc] at h
      exact .inr (.inr ⟨hca, h ▸ Numeric.le_refl hc⟩)
    · exact .inr (.inr ⟨Numeric.le_of_not_le ha hc hac, Numeric.le_of_not_le hb hc hbc⟩)
  · rintro (hnan | rfl | ⟨hca, hcb⟩)
    · exact absurd hnan hc
    · rfl
    · rw [Numeric.min_eq_right hca, Numeric.min_eq_right hcb]

theorem one_max_ofInt : max 1 (ofInt n) = ofInt (max 1 n) := max_ofInt

/-- A number clamped between `m` and `a` is an integer if `a` is one or the number is not above
it, and in no other case. -/
theorem isInteger_clamp_iff (h : ofInt m ≤ a) :
    (min (max (ofInt m) (ofInt n)) a).IsInteger ↔ a.IsInteger ∨ ofInt n ≤ a := by
  rw [max_ofInt]
  by_cases hle : ofInt n ≤ a
  · have hmax : ofInt (max m n) ≤ a := by
      rcases max_choice m n with hm | hn
      · rwa [hm]
      · rwa [hn]
    rw [Numeric.min_eq_left hmax]
    exact ⟨fun _ => .inr hle, fun _ => ⟨max m n, rfl⟩⟩
  · have hge : a ≤ ofInt (max m n) :=
      Numeric.le_trans (Numeric.le_of_not_le ofInt_ne_nan h.2.1 hle)
        (ofInt_le_ofInt.mpr (le_max_right m n))
    rw [Numeric.min_eq_right hge]
    exact ⟨.inl, fun hor => hor.resolve_right hle⟩

theorem or_ofInt : (ofInt n).or a = if n = 0 then a else ofInt n := by
  have hzero : ofInt n = 0 ↔ n = 0 := ofInt_inj
  simp [or, hzero]

end Numeric

namespace Ecma

/-- The code points of `WhiteSpace` and `LineTerminator`. -/
def whiteSpace : List Nat :=
  [0x9, 0xA, 0xB, 0xC, 0xD, 0x20, 0xA0, 0x1680, 0x2000, 0x2001, 0x2002, 0x2003, 0x2004, 0x2005,
    0x2006, 0x2007, 0x2008, 0x2009, 0x200A, 0x2028, 0x2029, 0x202F, 0x205F, 0x3000, 0xFEFF]

def isWhiteSpace (c : Char) : Bool := c.toNat ∈ whiteSpace

/-- `String.prototype.trim`. -/
def trim (s : String) : String :=
  String.ofList ((s.toList.dropWhile isWhiteSpace).rdropWhile isWhiteSpace)

structure Trimmed (s : String) : Prop where
  nonempty : s ≠ ""
  start : Stops isWhiteSpace s.toList
  last : Stops isWhiteSpace s.toList.reverse

def leadingDigits (cs : List Char) : Option Nat :=
  if cs.takeWhile Char.isDigit = [] then none
  else some (Nat.ofDigitChars 10 (cs.takeWhile Char.isDigit) 0)

def leadingInteger : List Char → Option Int
  | '-' :: cs => (leadingDigits cs).map fun n => -(n : Int)
  | '+' :: cs => (leadingDigits cs).map Int.ofNat
  | cs => (leadingDigits cs).map Int.ofNat

/-- The integer that `parseInt` finds in base ten. -/
def parseInteger (s : String) : Option Int := leadingInteger (s.toList.dropWhile isWhiteSpace)

/-- `parseInt(s, 10)`, without the rounding that integers from `2 ^ 53` on may need. -/
def parseInt (s : String) : Numeric :=
  match parseInteger s with
  | some n => .ofInt n
  | none => .nan

/-- The integer at the start of `s`, or `k` if there is none or it is zero. -/
def integerOr (s : String) (k : Int) : Int :=
  match parseInteger s with
  | some n => if n = 0 then k else n
  | none => k

variable {s : String}

theorem trim_eq_self (h : Trimmed s) : trim s = s := by
  rw [trim, dropWhile_of_stops h.start, List.rdropWhile, dropWhile_of_stops h.last,
    List.reverse_reverse, String.ofList_toList]

theorem trimmed_trim (h : trim s ≠ "") : Trimmed (trim s) := by
  refine ⟨h, ?_, ?_⟩
  · rw [trim, String.toList_ofList]
    exact stops_dropWhile.of_isPrefix <| List.rdropWhile_prefix _ _
  · rw [trim, String.toList_ofList, List.rdropWhile, List.reverse_reverse]
    exact stops_dropWhile

theorem leadingDigits_append {ds r : List Char} (hds : ∀ c ∈ ds, c.isDigit) (hne : ds ≠ [])
    (hr : Stops Char.isDigit r) : leadingDigits (ds ++ r) = some (Nat.ofDigitChars 10 ds 0) := by
  rw [leadingDigits, List.takeWhile_append_of_pos hds, takeWhile_of_stops hr, List.append_nil,
    if_neg hne]

theorem not_isWhiteSpace_of_isDigit {c : Char} (h : c.isDigit) : isWhiteSpace c = false := by
  have houtside : ∀ n ∈ whiteSpace, n < 48 ∨ 57 < n := by decide
  simp only [Char.isDigit, Bool.and_eq_true, decide_eq_true_eq] at h
  have hlow : 48 ≤ c.toNat := h.1
  have hhigh : c.toNat ≤ 57 := h.2
  rw [isWhiteSpace, decide_eq_false_iff_not]
  intro hmem
  have := houtside _ hmem
  omega

theorem leadingDigits_text (x : Number) :
    leadingDigits x.literal.text = some (Nat.ofDigitChars 10 x.literal.integer 0) :=
  leadingDigits_append x.literal_digits.integer x.literal_digits.nonempty (stops_fractionText _ _)

theorem leadingInteger_of_isDigit {c : Char} {cs : List Char} (h : c.isDigit) :
    leadingInteger (c :: cs) = (leadingDigits (c :: cs)).map Int.ofNat := by
  unfold leadingInteger
  split
  · next heq =>
    rw [(List.cons.inj heq).1] at h
    exact absurd h (by decide)
  · next heq =>
    rw [(List.cons.inj heq).1] at h
    exact absurd h (by decide)
  · rfl

theorem parseInteger_text (x : Number) :
    parseInteger (Numeric.text (.finite x)) = some
      (if x.negative then -(Nat.ofDigitChars 10 x.literal.integer 0 : Int)
        else Nat.ofDigitChars 10 x.literal.integer 0) := by
  have hdigits := leadingDigits_text x
  rw [parseInteger, Numeric.text, String.toList_ofList, Number.text]
  split
  · have hsign : Stops isWhiteSpace ('-' :: x.literal.text) := stops_cons.mpr (by decide)
    rw [dropWhile_of_stops hsign, leadingInteger, hdigits]
    rfl
  · obtain ⟨c, cs, htext, hc⟩ := x.exists_literal_text
    have hstart : Stops isWhiteSpace (c :: cs) := stops_cons.mpr (not_isWhiteSpace_of_isDigit hc)
    rw [htext] at hdigits ⊢
    rw [dropWhile_of_stops hstart, leadingInteger_of_isDigit hc, hdigits]
    rfl

/-- The text of a number starts with less than `10 ^ 21`: longer ones have an exponent. -/
theorem lt_of_parseInteger_text {a : Numeric} {n : Int} (h : parseInteger a.text = some n) :
    n < 10 ^ 21 := by
  cases a with
  | nan => cases h
  | infinity negative => cases negative <;> cases h
  | finite x =>
    have hlt := ofDigitChars_lt x.literal_digits.integer
    have hpow := Nat.pow_le_pow_right (by decide : 0 < 10) x.length_integer_le
    rw [parseInteger_text, Option.some.injEq] at h
    split at h <;> omega

theorem parseInt_or (k : Int) : (parseInt s).or (.ofInt k) = .ofInt (integerOr s k) := by
  unfold parseInt integerOr
  cases parseInteger s with
  | none => exact if_pos (.inl rfl)
  | some n => simp only [Numeric.or_ofInt, apply_ite Numeric.ofInt]

theorem integerOr_lt {k m : Int} (h : ∀ n, parseInteger s = some n → n < m) (hk : k < m) :
    integerOr s k < m := by
  unfold integerOr
  split
  · next n hn =>
    split
    · exact hk
    · exact h n hn
  · exact hk

theorem parseInteger_text_of_le {x : Number} (h : 1 ≤ x.value) (hlt : x.value < 10 ^ 21) :
    parseInteger (Numeric.text (.finite x)) = some ⌊x.value⌋ := by
  rw [parseInteger_text, x.not_negative (zero_le_one.trans h), if_neg Bool.false_ne_true,
    x.ofDigitChars_integer h hlt]

theorem parseInteger_text_ofInt {n : Int} (h : 1 ≤ n) (hlt : n < 10 ^ 21) :
    parseInteger (Numeric.ofInt n).text = some n := by
  have hvalue := Number.value_ofInt n
  rw [Numeric.ofInt, parseInteger_text_of_le, hvalue, Int.floor_intCast]
  · rw [hvalue]
    exact_mod_cast h
  · rw [hvalue]
    exact_mod_cast hlt

theorem integerOr_text_ofInt {n : Int} (k : Int) (h : 1 ≤ n) (hlt : n < 10 ^ 21) :
    integerOr (Numeric.ofInt n).text k = n := by
  rw [integerOr, parseInteger_text_ofInt h hlt]
  exact if_neg (by omega)

theorem parseInt_text {a : Numeric} {n : Int} (h : 1 ≤ a) (hle : a ≤ .ofInt n) (hn : n < 10 ^ 21) :
    parseInt a.text = a.floor := by
  obtain ⟨x, rfl, hone, hx⟩ := Numeric.exists_finite (m := 1) h hle
  have hlt : x.value < 10 ^ 21 := hx.trans_lt (by exact_mod_cast hn)
  rw [Int.cast_one] at hone
  rw [parseInt, parseInteger_text_of_le hone hlt]
  rfl

end Ecma
