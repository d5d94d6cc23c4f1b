import Ecommerce.Lib.Json
import Mathlib.Data.List.Forall2

universe u

structure Check (α : Type u) where
  holds : α → Bool
  message : String

namespace Check

variable {α : Type u}

def failures (checks : List (Check α)) (a : α) : List String :=
  (checks.filter fun check => !check.holds a).map Check.message

@[simp] theorem failures_eq_nil {checks : List (Check α)} {a : α} :
    failures checks a = [] ↔ ∀ check ∈ checks, check.holds a := by
  simp [failures, List.filter_eq_nil_iff]

def length (s : String) : Nat := (s.toList.map fun c => if c.toNat < 0x10000 then 1 else 2).sum

def min (n : Nat) (message : String) : Check String := ⟨fun s => n ≤ length s, message⟩

def max (n : Nat) : Check String :=
  ⟨fun s => length s ≤ n, "String must contain at most " ++ toString n ++ " character(s)"⟩

def int : Check Number := ⟨fun x => x.value.den = 1, "Expected integer, received float"⟩

def positive (message : String) : Check Number := ⟨fun x => 0 < x.value, message⟩

def nonempty (message : String) : Check Nat := ⟨fun n => 1 ≤ n, message⟩

end Check

/-- `array` checks the length of the list. -/
inductive Schema
  | string (checks : List (Check String))
  | number (checks : List (Check Number))
  | array (item : Schema) (checks : List (Check Nat))
  | object (fields : List (String × Schema))
  | optional (inner : Schema)
  | nullable (inner : Schema)

structure Issue where
  path : List String
  message : String
  deriving DecidableEq

namespace Issue

def under (key : String) (issue : Issue) : Issue := { issue with path := key :: issue.path }

/-- `path: message`. -/
def text (issue : Issue) : String := ".".intercalate issue.path ++ ": " ++ issue.message

end Issue

namespace Schema

def typeName : Json → String
  | .null => "null"
  | .bool _ => "boolean"
  | .num _ => "number"
  | .str _ => "string"
  | .arr _ => "array"
  | .obj _ => "object"

def mismatch (expected : String) : Option Json → Issue
  | none => ⟨[], "Required"⟩
  | some j => ⟨[], "Expected " ++ expected ++ ", received " ++ typeName j⟩

mutual

def issues : Schema → Option Json → List Issue
  | .string checks, v =>
    match v with
    | some (.str s) => (Check.failures checks s).map (Issue.mk [])
    | v => [mismatch "string" v]
  | .number checks, v =>
    match v with
    | some (.num x) => (Check.failures checks x).map (Issue.mk [])
    | v => [mismatch "number" v]
  | .array item checks, v =>
    match v with
    | some (.arr items) =>
      (Check.failures checks items.length).map (Issue.mk []) ++
        items.zipIdx.flatMap fun (j, i) =>
          (issues item (some j)).map (Issue.under (toString i))
    | v => [mismatch "array" v]
  | .object fields, v =>
    match v with
    | some (.obj props) => issuesFields fields props
    | v => [mismatch "object" v]
  | .optional inner, v =>
    match v with
    | none => []
    | some j => issues inner (some j)
  | .nullable inner, v =>
    match v with
    | some .null => []
    | v => issues inner v

def issuesFields : List (String × Schema) → List (String × Json) → List Issue
  | [], _ => []
  | (key, s) :: fields, props =>
    (issues s (props.lookup key)).map (Issue.under key) ++ issuesFields fields props

end

mutual

def output : Schema → Json → Json
  | .array item _, j =>
    match j with
    | .arr items => .arr (items.map (output item))
    | j => j
  | .object fields, j =>
    match j with
    | .obj props => .obj (outputFields fields props)
    | j => j
  | .optional inner, j => output inner j
  | .nullable inner, j => output inner j
  | _, j => j

def outputFields : List (String × Schema) → List (String × Json) → List (String × Json)
  | [], _ => []
  | (key, s) :: fields, props =>
    match props.lookup key with
    | none => outputFields fields props
    | some j => (key, output s j) :: outputFields fields props

end

/-- What an object schema makes of a value. -/
def parse (fields : List (String × Schema)) (v : Option Json) :
    Except (List Issue) (List (String × Json)) :=
  match v with
  | some (.obj props) =>
    if issuesFields fields props = [] then .ok (outputFields fields props)
    else .error (issuesFields fields props)
  | v => .error [mismatch "object" v]

/-- `s.partial()`, by the fields of `s`. -/
def partialFields (fields : List (String × Schema)) : List (String × Schema) :=
  fields.map fun field => (field.1, .optional field.2)

mutual

def proper : Schema → Bool
  | .array item _ => proper item
  | .object fields => decide (fields.map Prod.fst).Nodup && properFields fields
  | .optional inner => proper inner
  | .nullable inner => proper inner
  | _ => true

def properFields : List (String × Schema) → Bool
  | [] => true
  | (_, s) :: fields => proper s && properFields fields

end

section Issues

variable {v : Option Json}

theorem issues_string {checks : List (Check String)} :
    (string checks).issues v = [] ↔ ∃ x, v = some (.str x) ∧ ∀ check ∈ checks, check.holds x := by
  simp only [issues]
  split
  · next x => simp
  · next hv => simpa using fun x hx => absurd hx (hv x)

theorem issues_number {checks : List (Check Number)} :
    (number checks).issues v = [] ↔ ∃ x, v = some (.num x) ∧ ∀ check ∈ checks, check.holds x := by
  simp only [issues]
  split
  · next x => simp
  · next hv => simpa using fun x hx => absurd hx (hv x)

theorem issues_array {item : Schema} {checks : List (Check Nat)} :
    (array item checks).issues v = [] ↔ ∃ items, v = some (.arr items) ∧
      (∀ check ∈ checks, check.holds items.length) ∧ ∀ j ∈ items, item.issues (some j) = [] := by
  simp only [issues]
  split
  · next items =>
    simp only [List.append_eq_nil_iff, List.map_eq_nil_iff, Check.failures_eq_nil,
      List.flatMap_eq_nil_iff, Option.some.injEq, Json.arr.injEq, exists_eq_left']
    refine and_congr_right fun _ => ?_
    constructor
    · intro h j hj
      obtain ⟨i, hi⟩ := List.mem_iff_getElem?.mp hj
      exact h (j, i) (List.mem_zipIdx_iff_getElem?.mpr hi)
    · intro h ji hji
      exact h ji.1 (List.mem_of_getElem? (List.mem_zipIdx_iff_getElem?.mp hji))
  · next hv => simpa using fun x hx => absurd hx (hv x)

theorem issuesFields_eq_nil {fields : List (String × Schema)} {props : List (String × Json)} :
    issuesFields fields props = [] ↔
      ∀ field ∈ fields, field.2.issues (props.lookup field.1) = [] := by
  induction fields with
  | nil => simp [issuesFields]
  | cons field fields ih => simp [issuesFields, ih]

theorem issues_object {fields : List (String × Schema)} :
    (object fields).issues v = [] ↔ ∃ props, v = some (.obj props) ∧
      ∀ field ∈ fields, field.2.issues (props.lookup field.1) = [] := by
  simp only [issues]
  split
  · next props => simp [issuesFields_eq_nil]
  · next hv => simpa using fun x hx => absurd hx (hv x)

theorem issues_optional {inner : Schema} :
    (optional inner).issues v = [] ↔ ∀ j, v = some j → inner.issues (some j) = [] := by
  simp only [issues]
  split
  · simp
  · next j => simp

theorem parse_eq_ok {fields : List (String × Schema)} {data : List (String × Json)} :
    parse fields v = .ok data ↔ ∃ props, v = some (.obj props) ∧ issuesFields fields props = [] ∧
      outputFields fields props = data := by
  unfold parse
  split
  · next props =>
    split
    · next h => simp [h]
    · next h => simp [h]
  · next hv => simpa using fun props hprops => absurd hprops (hv props)

end Issues

section Output

variable {fields : List (String × Schema)} {props : List (String × Json)}

theorem keys_outputFields : ((outputFields fields props).map Prod.fst).Sublist
    (fields.map Prod.fst) := by
  induction fields with
  | nil => exact List.Sublist.refl _
  | cons field fields ih =>
    unfold outputFields
    split
    · exact ih.cons _
    · exact ih.cons_cons _

theorem lookup_outputFields (hfields : (fields.map Prod.fst).Nodup) {field : String × Schema}
    (hfield : field ∈ fields) : (outputFields fields props).lookup field.1 =
      (props.lookup field.1).map field.2.output := by
  induction fields with
  | nil => cases hfield
  | cons first fields ih =>
    obtain ⟨hfirst, hfields⟩ := List.nodup_cons.mp hfields
    unfold outputFields
    rcases List.mem_cons.mp hfield with rfl | hmem
    · cases hlookup : props.lookup field.1 with
      | none =>
        rw [Option.map_none, List.lookup_eq_none_iff]
        intro entry hentry
        have hkey : entry.1 ∈ fields.map Prod.fst :=
          keys_outputFields.subset (List.mem_map_of_mem hentry)
        simpa using fun hsame : field.1 = entry.1 => hfirst (hsame ▸ hkey)
      | some j => rw [Option.map_some, List.lookup_cons_self]
    · have hne : field.1 ≠ first.1 := fun h => hfirst (h ▸ List.mem_map_of_mem hmem)
      cases hlookup : props.lookup first.1 with
      | none => exact ih hfields hmem
      | some j =>
        have hbeq : (field.1 == first.1) = false := beq_eq_false_iff_ne.mpr hne
        rw [List.lookup_cons, hbeq]
        exact ih hfields hmem

end Output

/-- What `s` lets through, `t` lets through as it is. -/
structure Passes (s t : Schema) : Prop where
  absent : s.issues none = [] → t.issues none = []
  issues : ∀ j, s.issues (some j) = [] → t.issues (some (s.output j)) = []
  output : ∀ j, s.issues (some j) = [] → t.output (s.output j) = s.output j

namespace Passes

variable {s t : Schema} {fields fields' : List (String × Schema)}

theorem exists_of_forall₂ {α β : Type*} {r : α → β → Prop} {as : List α} {bs : List β}
    (h : List.Forall₂ r as bs) {b : β} (hb : b ∈ bs) : ∃ a ∈ as, r a b := by
  induction h with
  | nil => cases hb
  | cons hab _ ih =>
    rcases List.mem_cons.mp hb with rfl | hb
    · exact ⟨_, List.mem_cons_self, hab⟩
    · obtain ⟨a, ha, hrel⟩ := ih hb
      exact ⟨a, List.mem_cons_of_mem _ ha, hrel⟩

theorem outputFields_again {props left : List (String × Json)}
    (h : List.Forall₂ (fun field field' => field.1 = field'.1 ∧ Passes field.2 field'.2) fields
      fields') (hall : ∀ field ∈ fields, field.2.issues (props.lookup field.1) = [])
    (hleft : ∀ field ∈ fields,
      left.lookup field.1 = (props.lookup field.1).map field.2.output) :
    outputFields fields' left = outputFields fields props := by
  induction h with
  | nil => simp only [outputFields]
  | @cons field field' fields fields' hfield _ ih =>
    obtain ⟨hkey, hpasses⟩ := hfield
    have hrest := ih (fun f hf => hall f (List.mem_cons_of_mem _ hf))
      fun f hf => hleft f (List.mem_cons_of_mem _ hf)
    have hissues := hall field List.mem_cons_self
    have hlookup := hleft field List.mem_cons_self
    simp only [outputFields, ← hkey, hlookup, hrest]
    cases hfound : props.lookup field.1 with
    | none => rfl
    | some j =>
      rw [hfound] at hissues
      simp only [Option.map_some, hpasses.output j hissues]

theorem string {checks checks' : List (Check String)}
    (h : ∀ x, (∀ check ∈ checks, check.holds x) → ∀ check ∈ checks', check.holds x) :
    Passes (.string checks) (.string checks') where
  absent hnone := by
    obtain ⟨x, hx, -⟩ := issues_string.mp hnone
    cases hx
  issues j hj := by
    obtain ⟨x, hx, hchecks⟩ := issues_string.mp hj
    obtain rfl := Option.some.inj hx
    exact issues_string.mpr ⟨x, rfl, h x hchecks⟩
  output _ _ := rfl

theorem number {checks checks' : List (Check Number)}
    (h : ∀ x, (∀ check ∈ checks, check.holds x) → ∀ check ∈ checks', check.holds x) :
    Passes (.number checks) (.number checks') where
  absent hnone := by
    obtain ⟨x, hx, -⟩ := issues_number.mp hnone
    cases hx
  issues j hj := by
    obtain ⟨x, hx, hchecks⟩ := issues_number.mp hj
    obtain rfl := Option.some.inj hx
    exact issues_number.mpr ⟨x, rfl, h x hchecks⟩
  output _ _ := rfl

theorem array {checks checks' : List (Check Nat)} (hitem : Passes s t)
    (h : ∀ n, (∀ check ∈ checks, check.holds n) → ∀ check ∈ checks', check.holds n) :
    Passes (.array s checks) (.array t checks') where
  absent hnone := by
    obtain ⟨items, hitems, -⟩ := issues_array.mp hnone
    cases hitems
  issues j hj := by
    obtain ⟨items, hitems, hchecks, hall⟩ := issues_array.mp hj
    obtain rfl := Option.some.inj hitems
    simp only [Schema.output]
    refine issues_array.mpr ⟨_, rfl, ?_, fun j' hj' => ?_⟩
    · rw [List.length_map]
      exact h _ hchecks
    · obtain ⟨j₀, hj₀, rfl⟩ := List.mem_map.mp hj'
      exact hitem.issues j₀ (hall j₀ hj₀)
  output j hj := by
    obtain ⟨items, hitems, -, hall⟩ := issues_array.mp hj
    obtain rfl := Option.some.inj hitems
    simp only [Schema.output, List.map_map]
    exact congrArg Json.arr (List.map_congr_left fun j₀ hj₀ => hitem.output j₀ (hall j₀ hj₀))

theorem optional (h : Passes s t) : Passes (.optional s) (.optional t) where
  absent _ := by simp only [Schema.issues]
  issues j hj := by
    simp only [Schema.issues, Schema.output] at hj ⊢
    exact h.issues j hj
  output j hj := by
    simp only [Schema.issues, Schema.output] at hj ⊢
    exact h.output j hj

theorem optional_right (h : Passes s t) : Passes s (.optional t) where
  absent _ := by simp only [Schema.issues]
  issues j hj := by
    simp only [Schema.issues]
    exact h.issues j hj
  output j hj := by
    simp only [Schema.output]
    exact h.output j hj

theorem output_null : ∀ s : Schema, s.output .null = .null
  | .string _ => by simp only [Schema.output]
  | .number _ => by simp only [Schema.output]
  | .array _ _ => by simp only [Schema.output]
  | .object _ => by simp only [Schema.output]
  | .optional inner => by simpa only [Schema.output] using output_null inner
  | .nullable inner => by simpa only [Schema.output] using output_null inner

theorem nullable (h : Passes s t) : Passes (.nullable s) (.nullable t) where
  absent hnone := by
    simp only [Schema.issues] at hnone ⊢
    exact h.absent hnone
  issues j hj := by
    cases j with
    | null =>
      simp only [Schema.output, output_null, Schema.issues]
    | _ =>
      simp only [Schema.issues, Schema.output] at hj ⊢
      have hinner := h.issues _ hj
      split
      · rfl
      · exact hinner
  output j hj := by
    simp only [Schema.output]
    cases j with
    | null => rw [output_null, output_null]
    | _ =>
      simp only [Schema.issues] at hj
      exact h.output _ hj

theorem object (hfields : (fields.map Prod.fst).Nodup)
    (h : List.Forall₂ (fun field field' => field.1 = field'.1 ∧ Passes field.2 field'.2) fields
      fields') : Passes (.object fields) (.object fields') where
  absent hnone := by
    obtain ⟨props, hprops, -⟩ := issues_object.mp hnone
    cases hprops
  issues j hj := by
    obtain ⟨props, hprops, hall⟩ := issues_object.mp hj
    obtain rfl := Option.some.inj hprops
    simp only [Schema.output]
    refine issues_object.mpr ⟨_, rfl, fun field' hfield' => ?_⟩
    obtain ⟨field, hfield, hkey, hpasses⟩ := exists_of_forall₂ h hfield'
    rw [← hkey, lookup_outputFields hfields hfield]
    have hissues := hall field hfield
    cases hlookup : props.lookup field.1 with
    | none => exact hpasses.absent (hlookup ▸ hissues)
    | some j => exact hpasses.issues j (hlookup ▸ hissues)
  output j hj := by
    obtain ⟨props, hprops, hall⟩ := issues_object.mp hj
    obtain rfl := Option.some.inj hprops
    simp only [Schema.output]
    exact congrArg Json.obj (outputFields_again h hall fun field hfield =>
      lookup_outputFields hfields hfield)

mutual

theorem refl : ∀ s : Schema, s.proper → Passes s s
  | .string _, _ => string fun _ hx => hx
  | .number _, _ => number fun _ hx => hx
  | .array item _, h => array (refl item (by simpa only [proper] using h)) fun _ hn => hn
  | .object fields, h => by
    simp only [proper, Bool.and_eq_true, decide_eq_true_eq] at h
    exact object h.1 (List.forall₂_same.mpr fun field hfield =>
      ⟨rfl, refl_fields fields h.2 field hfield⟩)
  | .optional inner, h => optional (refl inner (by simpa only [proper] using h))
  | .nullable inner, h => nullable (refl inner (by simpa only [proper] using h))

theorem refl_fields : ∀ fields : List (String × Schema), properFields fields →
    ∀ field ∈ fields, Passes field.2 field.2
  | [], _, _, hfield => by cases hfield
  | (_, s) :: fields, h, field, hfield => by
    simp only [properFields, Bool.and_eq_true] at h
    rcases List.mem_cons.mp hfield with rfl | hmem
    · exact refl s h.1
    · exact refl_fields fields h.2 field hmem

end

theorem object_optional (h : (Schema.object fields).proper) :
    Passes (.object fields) (.object (partialFields fields)) := by
  simp only [proper, Bool.and_eq_true, decide_eq_true_eq] at h
  refine object h.1 ?_
  rw [partialFields, List.forall₂_map_right_iff]
  exact List.forall₂_same.mpr fun field hfield =>
    ⟨rfl, optional_right (refl_fields fields h.2 field hfield)⟩

end Passes

theorem parse_passes {fields fields' : List (String × Schema)} {v : Option Json}
    {data : List (String × Json)} (h : Passes (.object fields) (.object fields'))
    (hdata : parse fields v = .ok data) : parse fields' (some (.obj data)) = .ok data := by
  obtain ⟨props, -, hissues, rfl⟩ := parse_eq_ok.mp hdata
  have haccepted : (object fields).issues (some (.obj props)) = [] := by
    simpa only [issues] using hissues
  refine parse_eq_ok.mpr ⟨_, rfl, ?_, ?_⟩
  · simpa only [issues, output] using h.issues _ haccepted
  · simpa only [output, Json.obj.injEq] using h.output _ haccepted

theorem keys_parse {fields : List (String × Schema)} {v : Option Json}
    {data : List (String × Json)} (hdata : parse fields v = .ok data) :
    (data.map Prod.fst).Sublist (fields.map Prod.fst) := by
  obtain ⟨props, -, -, rfl⟩ := parse_eq_ok.mp hdata
  exact keys_outputFields

end Schema
