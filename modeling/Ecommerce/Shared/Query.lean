import Ecommerce.Lib.Numeric

namespace Ecommerce

open Ecma

/-- A JavaScript value: one that is no string or number is what converting it to a string gives,
which may throw. -/
inductive Value (ε : Type)
  | undefined
  | null
  | string (s : String)
  | number (x : Numeric)
  | other (text : Except ε String)

namespace Value

variable {ε : Type}

def toString : Value ε → Except ε String
  | undefined => .ok "undefined"
  | null => .ok "null"
  | string s => .ok s
  | number x => .ok x.text
  | other text => text

/-- `value ?? text`. -/
def orText (text : String) : Value ε → Value ε
  | undefined | null => string text
  | value => value

/-- `parseInt(value ?? text, 10) || fallback`. -/
def toInteger (value : Value ε) (text : String) (fallback : Numeric) : Except ε Numeric := do
  return (parseInt (← (value.orText text).toString)).or fallback

def Throws (value : Value ε) : Prop := ∃ e, value = other (.error e)

/-- A string in which `parseInt` finds no integer. -/
def Unusable (value : Value ε) : Prop := ∃ s, value = string s ∧ parseInteger s = none

/-- Absent, or a string whose number, if there is one, is below `2 ^ 53`. -/
def Plain (value : Value ε) : Prop :=
  value = undefined ∨ ∃ s, value = string s ∧ ∀ n, parseInteger s = some n → n < 2 ^ 53

/-- `typeof value === 'string' && value.trim() ? value.trim() : undefined`. -/
def trimmed : Value ε → Option String
  | string s => if trim s = "" then none else some (trim s)
  | _ => none

variable {value : Value ε} {text : String} {k : Int}

theorem toInteger_undefined :
    (undefined : Value ε).toInteger text (.ofInt k) = .ok (.ofInt (integerOr text k)) :=
  congrArg Except.ok (parseInt_or k)

theorem toInteger_default {n : Int} (h : 1 ≤ n) (hlt : n < 10 ^ 21) :
    (undefined : Value ε).toInteger (Numeric.ofInt n).text (.ofInt k) = .ok (.ofInt n) := by
  rw [toInteger_undefined, integerOr_text_ofInt k h hlt]

theorem toInteger_string (s : String) :
    (string s : Value ε).toInteger text (.ofInt k) = .ok (.ofInt (integerOr s k)) :=
  congrArg Except.ok (parseInt_or k)

theorem toInteger_of_unusable (h : value.Unusable) :
    value.toInteger text (.ofInt k) = .ok (.ofInt k) := by
  obtain ⟨s, rfl, hs⟩ := h
  rw [toInteger_string, integerOr, hs]

theorem toInteger_number {x : Numeric} {m : Int} (h : 1 ≤ x) (hle : x ≤ .ofInt m)
    (hm : m < 10 ^ 21) : (number x : Value ε).toInteger text (.ofInt k) = .ok x.floor := by
  obtain ⟨n, hn, hone, -⟩ := Numeric.exists_floor (m := 1) h hle
  have hread : (number x : Value ε).toInteger text (.ofInt k) =
      .ok ((parseInt x.text).or (.ofInt k)) := rfl
  rw [hread, parseInt_text h hle hm, hn, Numeric.or_ofInt, if_neg (by omega)]

theorem toInteger_eq_error_iff {e : ε} :
    value.toInteger text (.ofInt k) = .error e ↔ value = other (.error e) := by
  cases value with
  | other result =>
    cases result with
    | error e' => simp [toInteger, orText, toString]
    | ok s => simp [toInteger, orText, toString]
  | _ => simp [toInteger, orText, toString]

theorem not_throws_of_ok {x : Numeric} (h : value.toInteger text (.ofInt k) = .ok x) :
    ¬value.Throws := by
  rintro ⟨e, he⟩
  rw [toInteger_eq_error_iff.mpr he] at h
  cases h

theorem toInteger_of_plain (h : value.Plain) (htext : ∀ n, parseInteger text = some n → n < 10 ^ 21)
    (hk : k < 10 ^ 21) : ∃ n < 10 ^ 21, value.toInteger text (.ofInt k) = .ok (.ofInt n) := by
  rcases h with rfl | ⟨s, rfl, hs⟩
  · exact ⟨integerOr text k, integerOr_lt htext hk, toInteger_undefined⟩
  · exact ⟨integerOr s k, integerOr_lt (fun n hn => (hs n hn).trans (by decide)) hk,
      toInteger_string s⟩

theorem trimmed_of_mem {s : String} (h : s ∈ value.trimmed) : Trimmed s := by
  cases value with
  | string t =>
    by_cases ht : trim t = ""
    · simp [trimmed, ht] at h
    · simp only [trimmed, if_neg ht, Option.mem_def, Option.some.injEq] at h
      exact h ▸ trimmed_trim ht
  | _ => simp [trimmed] at h

theorem trimmed_elim {o : Option String} (h : ∀ s ∈ o, Trimmed s) :
    (o.elim undefined string : Value ε).trimmed = o := by
  cases o with
  | none => rfl
  | some s =>
    have hs := h s rfl
    rw [Option.elim_some, trimmed, trim_eq_self hs, if_neg hs.nonempty]

end Value

inductive SortOrder
  | asc
  | desc
  deriving DecidableEq

def SortOrder.text : SortOrder → String
  | asc => "asc"
  | desc => "desc"

def Value.sortOrder {ε : Type} : Value ε → SortOrder
  | string "asc" => .asc
  | string "desc" => .desc
  | _ => .desc

theorem Value.sortOrder_text {ε : Type} (order : SortOrder) :
    (string order.text : Value ε).sortOrder = order := by
  cases order <;> rfl

/-- The raw object; a property that is absent is `undefined`. -/
structure RawQuery (ε : Type) where
  page : Value ε
  limit : Value ε
  sortBy : Value ε
  sortOrder : Value ε
  q : Value ε

structure ListQuery where
  page : Numeric
  limit : Numeric
  sortBy : Option String
  sortOrder : SortOrder
  q : Option String
  deriving DecidableEq

structure ListDefaults where
  page : Option Numeric
  limit : Option Numeric
  maxLimit : Option Numeric

namespace ListDefaults

def pageText (defaults : ListDefaults) : String := (defaults.page.getD 1).text

def limitText (defaults : ListDefaults) : String := (defaults.limit.getD 20).text

def largest (defaults : ListDefaults) : Numeric := defaults.maxLimit.getD 100

end ListDefaults

variable {ε : Type}

def requestedPage (raw : RawQuery ε) (defaults : ListDefaults) : Except ε Numeric :=
  raw.page.toInteger defaults.pageText 1

def requestedLimit (raw : RawQuery ε) (defaults : ListDefaults) : Except ε Numeric :=
  raw.limit.toInteger defaults.limitText 20

def parseListQuery (raw : RawQuery ε) (defaults : ListDefaults) : Except ε ListQuery := do
  let page := max 1 (← requestedPage raw defaults)
  let limit := min (max 1 (← requestedLimit raw defaults)) defaults.largest
  return ⟨page, limit, raw.sortBy.trimmed, raw.sortOrder.sortOrder, raw.q.trimmed⟩

/-- The result as the raw object of another call. -/
def ListQuery.toRaw (query : ListQuery) : RawQuery ε where
  page := .number query.page
  limit := .number query.limit
  sortBy := query.sortBy.elim .undefined .string
  sortOrder := .string query.sortOrder.text
  q := query.q.elim .undefined .string

/-- What a list is asked with once the raw object is read. -/
structure ListQuery.Normal (largest : Numeric) (query : ListQuery) : Prop where
  integer_page : query.page.IsInteger
  one_le_page : 1 ≤ query.page
  one_le_limit : 1 ≤ query.limit
  limit_le : query.limit ≤ largest
  sortBy : ∀ s ∈ query.sortBy, Trimmed s
  q : ∀ s ∈ query.q, Trimmed s

variable {raw : RawQuery ε} {defaults : ListDefaults} {page limit : Numeric} {m n k : Int}

theorem parseListQuery_eq (hpage : requestedPage raw defaults = .ok page)
    (hlimit : requestedLimit raw defaults = .ok limit) :
    parseListQuery raw defaults = .ok
      ⟨max 1 page, min (max 1 limit) defaults.largest, raw.sortBy.trimmed,
        raw.sortOrder.sortOrder, raw.q.trimmed⟩ := by
  rw [parseListQuery, hpage, hlimit]
  rfl

theorem parseListQuery_of_page_error {e : ε} (h : requestedPage raw defaults = .error e) :
    parseListQuery raw defaults = .error e := by
  rw [parseListQuery, h]
  rfl

theorem parseListQuery_of_limit_error {e : ε} (hpage : requestedPage raw defaults = .ok page)
    (h : requestedLimit raw defaults = .error e) : parseListQuery raw defaults = .error e := by
  rw [parseListQuery, hpage, h]
  rfl

/-- A result that is read again keeps all but the fraction of its limit. -/
theorem parseListQuery_toRaw {query : ListQuery} (h : query.Normal defaults.largest)
    (hpage : query.page ≤ .ofInt m) (hlimit : query.limit ≤ .ofInt m) (hm : m < 10 ^ 21) :
    parseListQuery (query.toRaw : RawQuery ε) defaults =
      .ok { query with limit := query.limit.floor } := by
  obtain ⟨p, hp⟩ := h.integer_page
  obtain ⟨l, hl, hone, hle⟩ := Numeric.exists_floor (m := 1) h.one_le_limit hlimit
  have hpage' : requestedPage (query.toRaw : RawQuery ε) defaults = .ok query.page := by
    have hfloor : requestedPage (query.toRaw : RawQuery ε) defaults = .ok query.page.floor :=
      Value.toInteger_number h.one_le_page hpage hm
    rwa [hp, Numeric.floor_ofInt, ← hp] at hfloor
  have hlimit' : requestedLimit (query.toRaw : RawQuery ε) defaults = .ok query.limit.floor :=
    Value.toInteger_number h.one_le_limit hlimit hm
  have hfloor : 1 ≤ query.limit.floor := hl ▸ Numeric.ofInt_le_ofInt.mpr hone
  have hlargest : query.limit.floor ≤ defaults.largest := hl ▸ Numeric.le_trans hle h.limit_le
  rw [parseListQuery_eq hpage' hlimit', Numeric.max_eq_right h.one_le_page,
    Numeric.max_eq_right hfloor, Numeric.min_eq_left hlargest]
  simp only [ListQuery.toRaw, Value.trimmed_elim h.sortBy, Value.trimmed_elim h.q,
    Value.sortOrder_text]

theorem parseListQuery_toRaw_iff {query : ListQuery} (h : query.Normal defaults.largest)
    (hpage : query.page ≤ .ofInt m) (hlimit : query.limit ≤ .ofInt m) (hm : m < 10 ^ 21) :
    parseListQuery (query.toRaw : RawQuery ε) defaults = .ok query ↔ query.limit.IsInteger := by
  rw [parseListQuery_toRaw h hpage hlimit hm, ← Numeric.floor_eq_self_iff h.one_le_limit hlimit]
  cases query
  simp

theorem normal_clamped (raw : RawQuery ε) (m n : Int) (h : 1 ≤ defaults.largest) :
    ListQuery.Normal defaults.largest
      ⟨max 1 (.ofInt m), min (max 1 (.ofInt n)) defaults.largest, raw.sortBy.trimmed,
        raw.sortOrder.sortOrder, raw.q.trimmed⟩ where
  integer_page := ⟨max 1 m, Numeric.max_ofInt⟩
  one_le_page := Numeric.le_max_left Numeric.ofInt_ne_nan Numeric.ofInt_ne_nan
  one_le_limit := Numeric.le_min (Numeric.le_max_left Numeric.ofInt_ne_nan Numeric.ofInt_ne_nan) h
  limit_le := Numeric.min_le_right (Numeric.max_ofInt (m := 1) ▸ Numeric.ofInt_ne_nan) h.2.1
  sortBy := fun _ hs => Value.trimmed_of_mem hs
  q := fun _ hs => Value.trimmed_of_mem hs

/-- The result is normal.  A requested limit above the largest one is cut down to it, and reading the
result again changes it exactly if that largest one is no integer. -/
theorem parseListQuery_normal (hpage : raw.page.Plain) (hlimit : raw.limit.Plain)
    (hlargest : 1 ≤ defaults.largest) :
    ∃ requested query, requestedLimit raw defaults = .ok requested ∧
      parseListQuery raw defaults = .ok query ∧ query.Normal defaults.largest ∧
      (¬requested ≤ defaults.largest → query.limit = defaults.largest) ∧
      (query.limit.IsInteger ↔ defaults.largest.IsInteger ∨ requested ≤ defaults.largest) ∧
      (parseListQuery (query.toRaw : RawQuery ε) defaults = .ok query ↔
        defaults.largest.IsInteger ∨ requested ≤ defaults.largest) := by
  obtain ⟨p, hp, hpage⟩ : ∃ p < 10 ^ 21, requestedPage raw defaults = .ok (.ofInt p) :=
    Value.toInteger_of_plain hpage (fun n hn => lt_of_parseInteger_text hn) (by decide)
  obtain ⟨l, hl, hlimit⟩ : ∃ l < 10 ^ 21, requestedLimit raw defaults = .ok (.ofInt l) :=
    Value.toInteger_of_plain hlimit (fun n hn => lt_of_parseInteger_text hn) (by decide)
  have hinteger := Numeric.isInteger_clamp_iff (m := 1) (n := l) hlargest
  -- Both numbers are below `10 ^ 21`, so the second call reads their integer part off their text.
  have hnormal := normal_clamped raw p l hlargest
  have hpage_le : max 1 (.ofInt p) ≤ Numeric.ofInt (10 ^ 21 - 1) := by
    rw [Numeric.one_max_ofInt, Numeric.ofInt_le_ofInt]
    omega
  have hlimit_le : min (max 1 (.ofInt l)) defaults.largest ≤ Numeric.ofInt (10 ^ 21 - 1) := by
    rw [Numeric.one_max_ofInt]
    refine Numeric.le_trans (Numeric.min_le_left Numeric.ofInt_ne_nan hlargest.2.1) ?_
    rw [Numeric.ofInt_le_ofInt]
    omega
  have hcut : ¬Numeric.ofInt l ≤ defaults.largest →
      min (max 1 (.ofInt l)) defaults.largest = defaults.largest := fun h =>
    Numeric.min_max_eq_right hlargest (Numeric.le_of_not_le Numeric.ofInt_ne_nan hlargest.2.1 h)
  exact ⟨.ofInt l, _, hlimit, parseListQuery_eq hpage hlimit, hnormal, hcut, hinteger,
    (parseListQuery_toRaw_iff hnormal hpage_le hlimit_le (by decide)).trans hinteger⟩

private def sampleQuery : RawQuery String where
  page := .string "0"
  limit := .string "999"
  sortBy := .undefined
  sortOrder := .string "asc"
  q := .string " hi "

private def atMostFifty : ListDefaults := ⟨none, none, some 50⟩

theorem parseListQuery_normal_atMostFifty :
    ∃ requested query, requestedLimit sampleQuery atMostFifty = .ok requested ∧
      parseListQuery sampleQuery atMostFifty = .ok query ∧ query.Normal atMostFifty.largest ∧
      (¬requested ≤ atMostFifty.largest → query.limit = atMostFifty.largest) ∧
      (query.limit.IsInteger ↔ atMostFifty.largest.IsInteger ∨ requested ≤ atMostFifty.largest) ∧
      (parseListQuery (query.toRaw : RawQuery String) atMostFifty = .ok query ↔
        atMostFifty.largest.IsInteger ∨ requested ≤ atMostFifty.largest) := by
  have hpage : parseInteger "0" = some 0 := by decide
  have hlimit : parseInteger "999" = some 999 := by decide
  apply parseListQuery_normal
  · exact .inr ⟨"0", rfl, by simp [hpage]⟩
  · exact .inr ⟨"999", rfl, by simp [hlimit]⟩
  · exact Numeric.ofInt_le_ofInt.mpr (by decide)

private def noParameters : RawQuery String :=
  ⟨.undefined, .undefined, .undefined, .undefined, .undefined⟩

private def oneAndHalf : Number := .decimal ⟨false, 15, 1, by decide⟩

private def atMostOneAndHalf : ListDefaults := ⟨none, none, some (.finite oneAndHalf)⟩

private theorem value_oneAndHalf : oneAndHalf.value = 3 / 2 := by
  have hlength : (Nat.toDigits 10 15).length = 2 := by decide
  norm_num [oneAndHalf, Number.value, Number.negative, Number.magnitude, Decimal.magnitude,
    Decimal.digits, hlength]

private theorem not_isInteger_oneAndHalf : ¬(Numeric.finite oneAndHalf).IsInteger := by
  rintro ⟨n, hn⟩
  have hvalue := congrArg Number.value (Numeric.finite.inj hn)
  rw [value_oneAndHalf, Number.value_ofInt, div_eq_iff two_ne_zero] at hvalue
  have : (3 : Int) = n * 2 := by exact_mod_cast hvalue
  omega

/-- A largest limit that is no integer is given as it stands, and cut down when it is read. -/
theorem parseListQuery_atMostOneAndHalf :
    noParameters.page.Plain ∧ noParameters.limit.Plain ∧ 1 ≤ atMostOneAndHalf.largest ∧
      ∃ query, parseListQuery noParameters atMostOneAndHalf = .ok query ∧
        ¬query.limit.IsInteger ∧
        parseListQuery (query.toRaw : RawQuery String) atMostOneAndHalf ≠ .ok query := by
  have hone : Numeric.ofInt 1 ≤ .finite oneAndHalf := by
    rw [Numeric.ofInt, Numeric.finite_le_finite, value_oneAndHalf, Number.value_ofInt]
    norm_num
  have htwo : Numeric.finite oneAndHalf ≤ .ofInt 2 := by
    rw [Numeric.ofInt, Numeric.finite_le_finite, value_oneAndHalf, Number.value_ofInt]
    norm_num
  have hquery : parseListQuery noParameters atMostOneAndHalf =
      .ok ⟨1, .finite oneAndHalf, none, .desc, none⟩ := by
    have hpage : requestedPage noParameters atMostOneAndHalf = .ok (.ofInt 1) :=
      Value.toInteger_default (by decide) (by decide)
    have hlimit : requestedLimit noParameters atMostOneAndHalf = .ok (.ofInt 20) :=
      Value.toInteger_default (by decide) (by decide)
    have htwenty : atMostOneAndHalf.largest ≤ .ofInt (max 1 20) :=
      Numeric.le_trans htwo (Numeric.ofInt_le_ofInt.mpr (by decide))
    rw [parseListQuery_eq hpage hlimit, Numeric.one_max_ofInt, Numeric.one_max_ofInt,
      Numeric.min_eq_right htwenty]
    rfl
  refine ⟨.inl rfl, .inl rfl, hone, _, hquery, not_isInteger_oneAndHalf, ?_⟩
  have hnormal : ListQuery.Normal atMostOneAndHalf.largest
      ⟨1, .finite oneAndHalf, none, .desc, none⟩ :=
    ⟨⟨1, rfl⟩, Numeric.le_refl Numeric.ofInt_ne_nan, hone, Numeric.le_refl hone.2.1,
      by simp, by simp⟩
  rw [Ne, parseListQuery_toRaw_iff (m := 2) hnormal (Numeric.ofInt_le_ofInt.mpr (by decide)) htwo
    (by decide)]
  exact not_isInteger_oneAndHalf

def ListDefaults.StartsFirst (defaults : ListDefaults) : Prop :=
  ∀ n, parseInteger defaults.pageText = some n → n ≤ 1

def ListDefaults.TwentyEach (defaults : ListDefaults) : Prop :=
  defaults.largest = .nan ∨ ∀ n, parseInteger defaults.limitText = some n →
    n = 0 ∨ n = 20 ∨ defaults.largest ≤ 20 ∧ defaults.largest ≤ max 1 (.ofInt n)

theorem ListDefaults.startsFirst_of_page (hpage : defaults.page = some (.ofInt n)) (h : 1 ≤ n)
    (hlt : n < 10 ^ 21) : defaults.StartsFirst ↔ n = 1 := by
  rw [StartsFirst, pageText, hpage, Option.getD_some, parseInteger_text_ofInt h hlt]
  simp only [Option.some.injEq, forall_eq']
  omega

theorem ListDefaults.twentyEach_of_limit (hlimit : defaults.limit = some (.ofInt n)) (h : 1 ≤ n)
    (hlt : n < 10 ^ 21) (hle : .ofInt n ≤ defaults.largest) :
    defaults.TwentyEach ↔ n = 20 ∨ n < 20 ∧ defaults.largest = .ofInt n := by
  rw [TwentyEach, limitText, hlimit, Option.getD_some, parseInteger_text_ofInt h hlt,
    or_iff_right hle.2.1]
  simp only [Option.some.injEq, forall_eq', Numeric.one_max_ofInt, max_eq_right h]
  constructor
  · rintro (hzero | htwenty | ⟨hcut, hn⟩)
    · omega
    · exact .inl htwenty
    · have hlargest := Numeric.le_antisymm hn hle
      have : n ≤ 20 := Numeric.ofInt_le_ofInt.mp (hlargest ▸ hcut)
      rcases this.eq_or_lt with htwenty | hbelow
      · exact .inl htwenty
      · exact .inr ⟨hbelow, hlargest⟩
  · rintro (htwenty | ⟨hbelow, hlargest⟩)
    · exact .inr (.inl htwenty)
    · rw [hlargest]
      exact .inr (.inr ⟨Numeric.ofInt_le_ofInt.mpr hbelow.le, Numeric.le_refl Numeric.ofInt_ne_nan⟩)

theorem ListDefaults.startsFirst_iff :
    defaults.StartsFirst ↔ max 1 (integerOr defaults.pageText 1) = 1 := by
  unfold StartsFirst integerOr
  cases parseInteger defaults.pageText with
  | none => simp
  | some n =>
    simp only [Option.some.injEq, forall_eq']
    split <;> omega

theorem ListDefaults.twentyEach_iff :
    defaults.TwentyEach ↔
      min (max 1 20) defaults.largest =
        min (max 1 (.ofInt (integerOr defaults.limitText 20))) defaults.largest := by
  have htwenty : (max 1 20 : Numeric) = .ofInt 20 := Numeric.one_max_ofInt
  rw [htwenty, Numeric.one_max_ofInt, Numeric.min_eq_min_iff Numeric.ofInt_ne_nan
    Numeric.ofInt_ne_nan, Numeric.ofInt_inj, TwentyEach, integerOr]
  refine or_congr_right ?_
  cases parseInteger defaults.limitText with
  | none => simp
  | some n =>
    simp only [Option.some.injEq, forall_eq']
    by_cases hn : n = 0
    · simp [hn]
    · have hmax : 20 = max 1 n ↔ n = 20 := by omega
      rw [if_neg hn, hmax, Numeric.one_max_ofInt]
      exact or_iff_right hn

theorem page_unusable_iff (h : raw.page.Unusable) :
    parseListQuery raw defaults = parseListQuery { raw with page := .undefined } defaults ↔
      raw.limit.Throws ∨ defaults.StartsFirst := by
  have hpage : requestedPage raw defaults = .ok (.ofInt 1) := Value.toInteger_of_unusable h
  have hdefault : requestedPage { raw with page := .undefined } defaults =
      .ok (.ofInt (integerOr defaults.pageText 1)) :=
    Value.toInteger_undefined
  cases hlimit : requestedLimit raw defaults with
  | error e =>
    have hthrows : raw.limit.Throws := ⟨e, Value.toInteger_eq_error_iff.mp hlimit⟩
    have hlimit' : requestedLimit { raw with page := .undefined } defaults = .error e := hlimit
    rw [parseListQuery_of_limit_error hpage hlimit, parseListQuery_of_limit_error hdefault hlimit']
    exact iff_of_true rfl (.inl hthrows)
  | ok limit =>
    have hlimit' : requestedLimit { raw with page := .undefined } defaults = .ok limit := hlimit
    rw [parseListQuery_eq hpage hlimit, parseListQuery_eq hdefault hlimit',
      or_iff_right (Value.not_throws_of_ok hlimit), ListDefaults.startsFirst_iff]
    simp only [Except.ok.injEq, ListQuery.mk.injEq, and_true, Numeric.one_max_ofInt,
      Numeric.ofInt_inj]
    exact eq_comm

theorem limit_unusable_iff (h : raw.limit.Unusable) :
    parseListQuery raw defaults = parseListQuery { raw with limit := .undefined } defaults ↔
      raw.page.Throws ∨ defaults.TwentyEach := by
  have hlimit : requestedLimit raw defaults = .ok 20 := Value.toInteger_of_unusable h
  have hdefault : requestedLimit { raw with limit := .undefined } defaults =
      .ok (.ofInt (integerOr defaults.limitText 20)) :=
    Value.toInteger_undefined
  cases hpage : requestedPage raw defaults with
  | error e =>
    have hthrows : raw.page.Throws := ⟨e, Value.toInteger_eq_error_iff.mp hpage⟩
    have hpage' : requestedPage { raw with limit := .undefined } defaults = .error e := hpage
    rw [parseListQuery_of_page_error hpage, parseListQuery_of_page_error hpage']
    exact iff_of_true rfl (.inl hthrows)
  | ok page =>
    have hpage' : requestedPage { raw with limit := .undefined } defaults = .ok page := hpage
    rw [parseListQuery_eq hpage hlimit, parseListQuery_eq hpage' hdefault,
      or_iff_right (Value.not_throws_of_ok hpage), ListDefaults.twentyEach_iff]
    simp only [Except.ok.injEq, ListQuery.mk.injEq, and_true, true_and]

/-- A page or limit without an integer in it counts as absent exactly where the caller's default
comes to the built-in one, or where reading the other one throws. -/
theorem parseListQuery_unusable_iff (raw : RawQuery ε) (defaults : ListDefaults) :
    ((raw.page.Unusable → parseListQuery raw defaults =
        parseListQuery { raw with page := .undefined } defaults) ∧
      (raw.limit.Unusable → parseListQuery raw defaults =
        parseListQuery { raw with limit := .undefined } defaults)) ↔
      (raw.page.Unusable → raw.limit.Throws ∨ defaults.StartsFirst) ∧
      (raw.limit.Unusable → raw.page.Throws ∨ defaults.TwentyEach) := by
  constructor
  · rintro ⟨hpage, hlimit⟩
    exact ⟨fun h => (page_unusable_iff h).mp (hpage h),
      fun h => (limit_unusable_iff h).mp (hlimit h)⟩
  · rintro ⟨hpage, hlimit⟩
    exact ⟨fun h => (page_unusable_iff h).mpr (hpage h),
      fun h => (limit_unusable_iff h).mpr (hlimit h)⟩

private def misspeltPage : RawQuery String := { noParameters with page := .string "abc" }

private def misspeltLimit : RawQuery String := { noParameters with limit := .string "abc" }

private def fromThirdPage : ListDefaults := ⟨some 3, none, none⟩

private def fiftyEach : ListDefaults := ⟨none, some 50, none⟩

/-- What cannot be read is taken for the built-in default, not for the caller's. -/
theorem parseListQuery_misspelt :
    (misspeltPage.page.Unusable ∧ parseListQuery misspeltPage fromThirdPage ≠
        parseListQuery { misspeltPage with page := .undefined } fromThirdPage) ∧
      misspeltLimit.limit.Unusable ∧ parseListQuery misspeltLimit fiftyEach ≠
        parseListQuery { misspeltLimit with limit := .undefined } fiftyEach := by
  have habc : parseInteger "abc" = none := by decide
  have hpage : misspeltPage.page.Unusable := ⟨"abc", rfl, habc⟩
  have hlimit : misspeltLimit.limit.Unusable := ⟨"abc", rfl, habc⟩
  have hconverts : ¬(Value.undefined : Value String).Throws := nofun
  refine ⟨⟨hpage, ?_⟩, hlimit, ?_⟩
  · rw [Ne, page_unusable_iff hpage,
      ListDefaults.startsFirst_of_page (n := 3) rfl (by decide) (by decide)]
    exact not_or.mpr ⟨hconverts, by decide⟩
  · have hle : Numeric.ofInt 50 ≤ fiftyEach.largest := Numeric.ofInt_le_ofInt.mpr (by decide)
    rw [Ne, limit_unusable_iff hlimit,
      ListDefaults.twentyEach_of_limit (n := 50) rfl (by decide) (by decide) hle]
    exact not_or.mpr ⟨hconverts, by simp⟩

end Ecommerce
