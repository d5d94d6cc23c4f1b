import Ecommerce.Lib.Number

/-- A value that `JSON.parse` can return; an object's keys in the order they were set. -/
inductive Json
  | null
  | bool (b : Bool)
  | num (x : Number)
  | str (s : String)
  | arr (items : List Json)
  | obj (fields : List (String × Json))

namespace Json

def truthy : Json → Bool
  | null => false
  | bool b => b
  | num x => x ≠ .zero
  | str s => s ≠ ""
  | arr _ => true
  | obj _ => true

/-- `value.key`, of which null has none at all. -/
def get (key : String) : Json → Except String (Option Json)
  | null => .error ("Cannot read properties of null (reading '" ++ key ++ "')")
  | obj fields => .ok (fields.lookup key)
  | _ => .ok none

mutual

/-- `String(value)`.  An own `toString` of a parsed object is never callable, and the `valueOf` it
falls back on gives no primitive. -/
def display : Json → Except String (List Char)
  | null => .ok ['n', 'u', 'l', 'l']
  | bool true => .ok ['t', 'r', 'u', 'e']
  | bool false => .ok ['f', 'a', 'l', 's', 'e']
  | num x => .ok x.text
  | str s => .ok s.toList
  | arr items => displayItems items
  | obj fields =>
    if (fields.lookup "toString").isSome then .error "Cannot convert object to primitive value"
    else .ok "[object Object]".toList

/-- `items.join(',')`, which writes nothing for null. -/
def displayItems : List Json → Except String (List Char)
  | [] => .ok []
  | [null] => .ok []
  | [j] => display j
  | null :: js => do
    let rest ← displayItems js
    return ',' :: rest
  | j :: js => do
    let first ← display j
    let rest ← displayItems js
    return first ++ ',' :: rest

end

def escape (c : Char) : List Char :=
  if c = '"' then ['\\', '"']
  else if c = '\\' then ['\\', '\\']
  else if c = '\x08' then ['\\', 'b']
  else if c = '\x0c' then ['\\', 'f']
  else if c = '\n' then ['\\', 'n']
  else if c = '\r' then ['\\', 'r']
  else if c = '\t' then ['\\', 't']
  else if c.toNat < 32 then
    ['\\', 'u', '0', '0', Nat.digitChar (c.toNat / 16), Nat.digitChar (c.toNat % 16)]
  else [c]

def quote (s : String) : List Char := '"' :: (s.toList.flatMap escape ++ ['"'])

mutual

/-- `JSON.stringify`. -/
def stringify : Json → List Char
  | null => ['n', 'u', 'l', 'l']
  | bool true => ['t', 'r', 'u', 'e']
  | bool false => ['f', 'a', 'l', 's', 'e']
  | num x => x.text
  | str s => quote s
  | arr items => '[' :: stringifyArr items
  | obj fields => '\x7b' :: stringifyObj fields

def stringifyArr : List Json → List Char
  | [] => [']']
  | j :: js => stringify j ++ stringifyItems js

def stringifyObj : List (String × Json) → List Char
  | [] => ['\x7d']
  | (key, j) :: fields => quote key ++ ':' :: (stringify j ++ stringifyFields fields)

def stringifyItems : List Json → List Char
  | [] => [']']
  | j :: js => ',' :: (stringify j ++ stringifyItems js)

def stringifyFields : List (String × Json) → List Char
  | [] => ['\x7d']
  | (key, j) :: fields =>
    ',' :: (quote key ++ ':' :: (stringify j ++ stringifyFields fields))

end

def hexValue (c : Char) : Nat := if c.isDigit then c.toNat - 48 else c.toNat - 87

/-- The next character of a string literal, as `JSON.parse` reads it. -/
def unescape : List Char → Option (Char × List Char)
  | '\\' :: '"' :: r => some ('"', r)
  | '\\' :: '\\' :: r => some ('\\', r)
  | '\\' :: 'b' :: r => some ('\x08', r)
  | '\\' :: 'f' :: r => some ('\x0c', r)
  | '\\' :: 'n' :: r => some ('\n', r)
  | '\\' :: 'r' :: r => some ('\r', r)
  | '\\' :: 't' :: r => some ('\t', r)
  | '\\' :: 'u' :: '0' :: '0' :: a :: b :: r =>
    some (Char.ofNat (16 * hexValue a + hexValue b), r)
  | '\\' :: _ => none
  | '"' :: _ => none
  | c :: r => some (c, r)
  | [] => none

theorem hexValue_digitChar {n : Nat} (h : n < 16) : hexValue (Nat.digitChar n) = n := by
  have hall : ∀ m < 16, hexValue (Nat.digitChar m) = m := by decide
  exact hall n h

theorem unescape_escape (c : Char) (r : List Char) : unescape (escape c ++ r) = some (c, r) := by
  unfold escape
  split
  · next h => rw [h]; rfl
  split
  · next h => rw [h]; rfl
  split
  · next h => rw [h]; rfl
  split
  · next h => rw [h]; rfl
  split
  · next h => rw [h]; rfl
  split
  · next h => rw [h]; rfl
  split
  · next h => rw [h]; rfl
  split
  · next h =>
    have hcode : 16 * (c.toNat / 16) + c.toNat % 16 = c.toNat := Nat.div_add_mod c.toNat 16
    simp only [List.cons_append, List.nil_append, unescape]
    rw [hexValue_digitChar (by omega), hexValue_digitChar (by omega), hcode, Char.ofNat_toNat]
  · rw [List.singleton_append, unescape.eq_def]
    split <;> simp_all

theorem escape_inj {c d : Char} {r r' : List Char} (h : escape c ++ r = escape d ++ r') :
    c = d ∧ r = r' := by
  have hsome := unescape_escape c r
  rw [h, unescape_escape] at hsome
  simpa [eq_comm] using hsome

theorem escape_ne_quote (c : Char) (r r' : List Char) : escape c ++ r ≠ '"' :: r' := by
  intro h
  have hsome := unescape_escape c r
  rw [h] at hsome
  simp [unescape] at hsome

theorem quote_inj {s t : String} {r r' : List Char} (h : quote s ++ r = quote t ++ r') :
    s = t ∧ r = r' := by
  have hchars : ∀ cs ds : List Char,
      cs.flatMap escape ++ '"' :: r = ds.flatMap escape ++ '"' :: r' → cs = ds ∧ r = r' := by
    intro cs
    induction cs with
    | nil =>
      intro ds h
      cases ds with
      | nil => simpa using h
      | cons d ds =>
        rw [List.flatMap_cons, List.append_assoc] at h
        exact absurd h.symm (escape_ne_quote d _ _)
    | cons c cs ih =>
      intro ds h
      cases ds with
      | nil =>
        rw [List.flatMap_cons, List.append_assoc] at h
        exact absurd h (escape_ne_quote c _ _)
      | cons d ds =>
        rw [List.flatMap_cons, List.flatMap_cons, List.append_assoc, List.append_assoc] at h
        obtain ⟨rfl, htail⟩ := escape_inj h
        obtain ⟨rfl, rfl⟩ := ih ds htail
        exact ⟨rfl, rfl⟩
  obtain ⟨hst, rfl⟩ := hchars s.toList t.toList (by simpa [quote] using h)
  exact ⟨String.toList_inj.mp hst, rfl⟩

section Stringify

open Number

inductive Kind
  | null
  | bool
  | num
  | str
  | arr
  | obj
  deriving DecidableEq

def kind : Json → Kind
  | .null => .null
  | .bool _ => .bool
  | .num _ => .num
  | .str _ => .str
  | .arr _ => .arr
  | .obj _ => .obj

def kindOf (c : Char) : Kind :=
  if c = 'n' then .null
  else if c = 't' ∨ c = 'f' then .bool
  else if c = '"' then .str
  else if c = '[' then .arr
  else if c = '\x7b' then .obj
  else .num

theorem exists_stringify (j : Json) :
    ∃ c cs, stringify j = c :: cs ∧ kindOf c = j.kind ∧ c ≠ ']' := by
  match j with
  | num x =>
    obtain ⟨c, cs, htext⟩ := List.exists_cons_of_ne_nil x.text_ne_nil
    have hnumeric := x.isNumeric_of_mem_text (c := c) (by rw [htext]; exact List.mem_cons_self)
    have hother : ∀ d, isNumeric d = false → c ≠ d := fun d hd hcd => by
      rw [hcd, hd] at hnumeric
      exact Bool.false_ne_true hnumeric
    refine ⟨c, cs, htext, ?_, hother ']' rfl⟩
    simp [kindOf, kind, hother 'n' rfl, hother 't' rfl, hother 'f' rfl, hother '"' rfl,
      hother '[' rfl, hother '\x7b' rfl]
  | null | bool true | bool false | str s | arr items | obj fields =>
    exact ⟨_, _, rfl, rfl, by decide⟩

theorem kind_eq {j k : Json} {r r' : List Char} (h : stringify j ++ r = stringify k ++ r') :
    j.kind = k.kind := by
  obtain ⟨c, cs, hj, hkind, -⟩ := exists_stringify j
  obtain ⟨d, ds, hk, hkind', -⟩ := exists_stringify k
  rw [hj, hk] at h
  rw [← hkind, ← hkind', (List.cons.inj h).1]

theorem stops_stringifyItems (js : List Json) (r : List Char) :
    Stops isNumeric (stringifyItems js ++ r) := by
  cases js <;> simp [stringifyItems, isNumeric, Char.isDigit]

theorem stops_stringifyFields (fields : List (String × Json)) (r : List Char) :
    Stops isNumeric (stringifyFields fields ++ r) := by
  rcases fields with _ | ⟨⟨key, j⟩, fields⟩ <;>
    simp [stringifyFields, isNumeric, Char.isDigit]

theorem stringify_ne_bracket (j : Json) (r r' : List Char) : stringify j ++ r ≠ ']' :: r' := by
  intro h
  obtain ⟨c, cs, hj, -, hc⟩ := exists_stringify j
  rw [hj] at h
  exact hc (List.cons.inj h).1

mutual

/-- A text is read back in one way only, whatever follows it. -/
theorem stringify_inj (j k : Json) (r r' : List Char) (hr : Stops isNumeric r)
    (hr' : Stops isNumeric r') (h : stringify j ++ r = stringify k ++ r') : j = k ∧ r = r' := by
  have hkind := kind_eq h
  cases j with
  | null => cases k with
    | null => exact ⟨rfl, by simpa [stringify] using h⟩
    | _ => cases hkind
  | bool b => cases k with
    | bool c => cases b <;> cases c <;> simp_all [stringify]
    | _ => cases hkind
  | num x => cases k with
    | num y =>
      obtain ⟨htext, hrest⟩ := append_inj_of_stops (fun c => x.isNumeric_of_mem_text)
        (fun c => y.isNumeric_of_mem_text) hr hr' h
      exact ⟨congrArg num (text_injective htext), hrest⟩
    | _ => cases hkind
  | str s => cases k with
    | str t =>
      obtain ⟨rfl, hrest⟩ := quote_inj h
      exact ⟨rfl, hrest⟩
    | _ => cases hkind
  | arr js => cases k with
    | arr ks =>
      simp only [stringify, List.cons_append, List.cons.injEq, true_and] at h
      obtain ⟨rfl, hrest⟩ := stringifyArr_inj js ks r r' h
      exact ⟨rfl, hrest⟩
    | _ => cases hkind
  | obj fields => cases k with
    | obj fields' =>
      simp only [stringify, List.cons_append, List.cons.injEq, true_and] at h
      obtain ⟨rfl, hrest⟩ := stringifyObj_inj fields fields' r r' h
      exact ⟨rfl, hrest⟩
    | _ => cases hkind
termination_by sizeOf j

theorem stringifyArr_inj (js ks : List Json) (r r' : List Char)
    (h : stringifyArr js ++ r = stringifyArr ks ++ r') : js = ks ∧ r = r' := by
  match js, ks with
  | [], [] => exact ⟨rfl, by simpa [stringifyArr] using h⟩
  | [], k :: ks =>
    simp only [stringifyArr, List.cons_append, List.append_assoc] at h
    exact absurd h.symm (stringify_ne_bracket k _ _)
  | j :: js, [] =>
    simp only [stringifyArr, List.cons_append, List.append_assoc] at h
    exact absurd h (stringify_ne_bracket j _ _)
  | j :: js, k :: ks =>
    simp only [stringifyArr, List.append_assoc] at h
    obtain ⟨rfl, hitems⟩ := stringify_inj j k _ _ (stops_stringifyItems js r)
      (stops_stringifyItems ks r') h
    obtain ⟨rfl, hrest⟩ := stringifyItems_inj js ks r r' hitems
    exact ⟨rfl, hrest⟩
termination_by sizeOf js

theorem stringifyObj_inj (fields fields' : List (String × Json)) (r r' : List Char)
    (h : stringifyObj fields ++ r = stringifyObj fields' ++ r') : fields = fields' ∧ r = r' := by
  match fields, fields' with
  | [], [] => exact ⟨rfl, by simpa [stringifyObj] using h⟩
  | [], (key, k) :: fields' => simp [stringifyObj, quote] at h
  | (key, j) :: fields, [] => simp [stringifyObj, quote] at h
  | (key, j) :: fields, (key', k) :: fields' =>
    simp only [stringifyObj, List.cons_append, List.append_assoc] at h
    obtain ⟨rfl, hvalue⟩ := quote_inj h
    obtain ⟨rfl, hfields⟩ := stringify_inj j k _ _ (stops_stringifyFields fields r)
      (stops_stringifyFields fields' r') (List.cons.inj hvalue).2
    obtain ⟨rfl, hrest⟩ := stringifyFields_inj fields fields' r r' hfields
    exact ⟨rfl, hrest⟩
termination_by sizeOf fields

theorem stringifyItems_inj (js ks : List Json) (r r' : List Char)
    (h : stringifyItems js ++ r = stringifyItems ks ++ r') : js = ks ∧ r = r' := by
  match js, ks with
  | [], [] => simpa [stringifyItems] using h
  | [], k :: ks => simp [stringifyItems] at h
  | j :: js, [] => simp [stringifyItems] at h
  | j :: js, k :: ks =>
    simp only [stringifyItems, List.cons_append, List.append_assoc, List.cons.injEq,
      true_and] at h
    obtain ⟨rfl, hitems⟩ := stringify_inj j k _ _ (stops_stringifyItems js r)
      (stops_stringifyItems ks r') h
    obtain ⟨rfl, hrest⟩ := stringifyItems_inj js ks r r' hitems
    exact ⟨rfl, hrest⟩
termination_by sizeOf js

theorem stringifyFields_inj (fields fields' : List (String × Json)) (r r' : List Char)
    (h : stringifyFields fields ++ r = stringifyFields fields' ++ r') :
    fields = fields' ∧ r = r' := by
  match fields, fields' with
  | [], [] => simpa [stringifyFields] using h
  | [], (key, k) :: fields' => simp [stringifyFields] at h
  | (key, j) :: fields, [] => simp [stringifyFields] at h
  | (key, j) :: fields, (key', k) :: fields' =>
    simp only [stringifyFields, List.cons_append, List.append_assoc, List.cons.injEq,
      true_and] at h
    obtain ⟨rfl, hvalue⟩ := quote_inj h
    obtain ⟨rfl, hfields⟩ := stringify_inj j k _ _ (stops_stringifyFields fields r)
      (stops_stringifyFields fields' r') (List.cons.inj hvalue).2
    obtain ⟨rfl, hrest⟩ := stringifyFields_inj fields fields' r r' hfields
    exact ⟨rfl, hrest⟩
termination_by sizeOf fields

end

theorem stringify_injective : Function.Injective stringify := by
  intro j k h
  exact (stringify_inj j k [] [] stops_nil stops_nil (by rw [h])).1

end Stringify

end Json
