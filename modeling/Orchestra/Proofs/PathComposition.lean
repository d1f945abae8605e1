import Mathlib.Data.List.Induction
import Orchestra.Path

namespace Orchestra

namespace Literal

/-- Digits denote a number if they are its decimal digits behind any number of zeros. -/
def Writes (digits : List Char) (n : Nat) : Prop :=
  ∃ zeros, digits = List.replicate zeros '0' ++ Nat.toDigits 10 n

variable {digits : List Char} {n : Nat}

theorem digitsValue_eq (digits : List Char) : digitsValue digits = Nat.ofDigitChars 10 digits 0 := by
  rw [digitsValue, Nat.ofDigitChars_eq_foldl]
  simp only [Nat.mul_comm]
  rfl

theorem eq_digitChar {c : Char} (digit : c.isDigit = true) : ∃ d < 10, c = Nat.digitChar d := by
  have bounds : 48 ≤ c.toNat ∧ c.toNat ≤ 57 := Char.isDigit_iff_toNat.mp digit
  refine ⟨c.toNat - 48, by omega, Char.toNat_inj.mp ?_⟩
  rw [Nat.toNat_digitChar_of_lt_ten (by omega)]
  omega

/-- One more digit multiplies by ten and adds. -/
theorem Writes.append {d : Nat} (writes : Writes digits n) (small : d < 10) :
    Writes (digits ++ [Nat.digitChar d]) (10 * n + d) := by
  obtain ⟨zeros, rfl⟩ := writes
  rcases Nat.eq_zero_or_pos n with rfl | positive
  · refine ⟨zeros + 1, ?_⟩
    rw [Nat.mul_zero, Nat.zero_add, Nat.toDigits_zero, Nat.toDigits_of_lt_base small, List.replicate_succ']
  · refine ⟨zeros, ?_⟩
    rw [← Nat.toDigits_append_toDigits (by decide) positive small, Nat.toDigits_of_lt_base small, List.append_assoc]

theorem writes_digitsValue (some : digits ≠ []) (all : ∀ c ∈ digits, c.isDigit = true) :
    Writes digits (digitsValue digits) := by
  rw [digitsValue_eq]
  -- By the last digit: one more of them multiplies by ten, while one in front would move no other.
  induction digits using List.reverseRecOn with
  | nil => exact absurd rfl some
  | append_singleton front last ih =>
    obtain ⟨d, small, rfl⟩ := eq_digitChar (all last (by simp))
    rw [Nat.ofDigitChars_append, Nat.ofDigitChars_cons_digitChar_of_lt_ten small, Nat.ofDigitChars_nil]
    by_cases alone : front = []
    · subst alone
      exact ⟨0, by simp [Nat.toDigits_of_lt_base small]⟩
    · exact (ih alone fun c member => all c (List.mem_append_left _ member)).append small

theorem Writes.digitsValue_eq (writes : Writes digits n) : digitsValue digits = n := by
  obtain ⟨zeros, rfl⟩ := writes
  rw [Literal.digitsValue_eq, Nat.ofDigitChars_append, Nat.ofDigitChars_replicate_zero, Nat.mul_zero,
    Nat.ofDigitChars_ten_toDigits]

theorem Writes.isDigit (writes : Writes digits n) : ∀ c ∈ digits, c.isDigit = true := by
  obtain ⟨zeros, rfl⟩ := writes
  intro c member
  rcases List.mem_append.mp member with zero | digit
  · rw [List.eq_of_mem_replicate zero]
    rfl
  · exact Nat.isDigit_of_mem_toDigits (by decide) (by decide) digit

theorem not_writes_signed : ¬ Writes ('+' :: digits) n :=
  fun writes => nomatch writes.isDigit '+' List.mem_cons_self

theorem Writes.ne_nil (writes : Writes digits n) : digits ≠ [] := by
  obtain ⟨zeros, rfl⟩ := writes
  exact List.append_ne_nil_of_right_ne_nil _ Nat.toDigits_ne_nil

theorem digits?_eq_some_iff : digits? digits = some n ↔ Writes digits n := by
  have numeral_iff : ¬ (digits.isEmpty = true ∨ ¬ digits.all Char.isDigit = true) ↔
      digits ≠ [] ∧ ∀ c ∈ digits, c.isDigit = true := by
    rw [not_or, not_not, List.isEmpty_iff, List.all_eq_true]
  rw [digits?]
  constructor
  · intro read
    split at read
    · cases read
    next numeral =>
      obtain ⟨some, all⟩ := numeral_iff.mp numeral
      obtain rfl := Option.some.inj read
      exact writes_digitsValue some all
  · intro writes
    rw [if_neg (numeral_iff.mpr ⟨writes.ne_nil, writes.isDigit⟩), writes.digitsValue_eq]

end Literal

namespace Path

/-- A segment denotes an index below `2 ^ 64` by digits that write it, with or without a plus sign in front. -/
inductive DenotesIndex (segment : String) (index : Nat) : Prop
  | plain : Literal.Writes segment.toList index → index < Nat.pow 2 64 → DenotesIndex segment index
  | signed {digits : List Char} : segment.toList = '+' :: digits → Literal.Writes digits index →
      index < Nat.pow 2 64 → DenotesIndex segment index

/-- A segment leads on from an object to the field of exactly this name, from an array to the item at the index that it
denotes, and from nothing else. -/
inductive Leads : Json → String → Json → Prop
  | field {fields : List (String × Json)} {segment : String} {next : Json} : Fields.get? fields segment = some next →
      Leads (.object fields) segment next
  | item {items : List Json} {segment : String} {index : Nat} {next : Json} : DenotesIndex segment index →
      items[index]? = some next → Leads (.array items) segment next

/-- Segments lead on one after another. -/
inductive Descends : Json → List String → Json → Prop
  | here (value : Json) : Descends value [] value
  | down {start next value : Json} {segment : String} {rest : List String} : Leads start segment next →
      Descends next rest value → Descends start (segment :: rest) value

/-- How lookups go together, whatever the paths look like. -/
structure Composes (inputs state : Dict Json) : Prop where
  root : ∀ name, '.' ∉ name.toList → lookup name inputs state = (inputs.get? name).or (state.get? name)
  joined : ∀ front back value, lookup (front ++ "." ++ back) inputs state = some value ↔
    ∃ start first rest, lookup front inputs state = some start ∧ Splits back first rest ∧
      Descends start (first :: rest) value
  /-- Beyond a path without a value there are none. -/
  fails : ∀ front, lookup front inputs state = none → ∀ back, lookup (front ++ "." ++ back) inputs state = none

variable {segment root : String} {rest : List String} {index : Nat} {start next value : Json} {inputs state : Dict Json}

theorem index?_eq_some_iff : index? segment = some index ↔ DenotesIndex segment index := by
  rw [index?, Literal.natural?, Option.filter_eq_some_iff, Literal.digits?_eq_some_iff, decide_eq_true_eq]
  constructor
  · rintro ⟨writes, small⟩
    split at writes
    next digits signed => exact .signed signed writes small
    next => exact .plain writes small
  · rintro (⟨writes, small⟩ | ⟨signed, writes, small⟩)
    · refine ⟨?_, small⟩
      split
      next digits signed => exact absurd (signed ▸ writes) Literal.not_writes_signed
      next => exact writes
    · rw [signed]
      exact ⟨writes, small⟩

theorem step?_eq_some_iff : step? start segment = some next ↔ Leads start segment next := by
  constructor
  · intro found
    cases start with
    | object fields => exact .field found
    | array items =>
      obtain ⟨index, denoted, there⟩ := Option.bind_eq_some_iff.mp found
      exact .item (index?_eq_some_iff.mp denoted) there
    | _ => cases found
  · intro leads
    cases leads with
    | field found => exact found
    | item denotes there => exact Option.bind_eq_some_iff.mpr ⟨_, index?_eq_some_iff.mpr denotes, there⟩

theorem descend?_eq_some_iff : descend? start rest = some value ↔ Descends start rest value := by
  induction rest generalizing start with
  | nil =>
    constructor
    · rintro ⟨⟩
      exact .here _
    · rintro ⟨⟩
      rfl
  | cons segment rest ih =>
    rw [descend?, Option.bind_eq_some_iff]
    constructor
    · rintro ⟨next, first, further⟩
      exact .down (step?_eq_some_iff.mp first) (ih.mp further)
    · intro descends
      cases descends with
      | down leads further => exact ⟨_, step?_eq_some_iff.mpr leads, ih.mpr further⟩

/-- The value at a path of two is the second one's descent from the value at the first one. -/
theorem Splits.lookup_join {back : String} (splits : Splits back root rest) (front : String) :
    Path.lookup (front ++ "." ++ back) inputs state =
      (Path.lookup front inputs state).bind (descend? · (root :: rest)) := by
  obtain ⟨first, others, splits'⟩ := exists_splits front
  rw [(splits'.join splits).lookup, splits'.lookup, Option.bind_assoc]
  exact Option.bind_congr fun start _ => descend?_append start others (root :: rest)

theorem lookup_of_plain {name : String} (plain : '.' ∉ name.toList) :
    lookup name inputs state = (inputs.get? name).or (state.get? name) := by
  have splits : Splits name name [] := ⟨by simp, by simpa using plain⟩
  rw [splits.lookup]
  exact Option.bind_fun_some _

/-- The value at a path of two paths with a dot between them is found from the value at the first one, along the
segments of the second one. -/
theorem lookup_composes (inputs state : Dict Json) : Composes inputs state where
  root name plain := lookup_of_plain plain
  joined front back value := by
    obtain ⟨first, rest, splits⟩ := exists_splits back
    rw [splits.lookup_join, Option.bind_eq_some_iff]
    constructor
    · rintro ⟨start, found, below⟩
      exact ⟨start, first, rest, found, splits, descend?_eq_some_iff.mp below⟩
    · rintro ⟨start, first', rest', found, splits', descends⟩
      obtain ⟨rfl, rfl⟩ := splits.unique splits'
      exact ⟨start, found, descend?_eq_some_iff.mpr descends⟩
  fails front nothing back := by
    obtain ⟨first, rest, splits⟩ := exists_splits back
    rw [splits.lookup_join, nothing, Option.bind_none]

/-- An index may be written in more than one way, a name may not; nothing lies beyond the last item. -/
example : let state : Dict Json := Dict.ofList [("rows", .array [.bool false, .object [("", .bool true)]])]
    lookup "rows.+01." ∅ state = some (.bool true) ∧ lookup "rows.1.0" ∅ state = none ∧
      lookup "rows.18446744073709551616" ∅ state = none :=
  ⟨by rfl, by rfl, by rfl⟩

end Path

end Orchestra
