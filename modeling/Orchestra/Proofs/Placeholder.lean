import Orchestra.Template.Placeholder

namespace Orchestra

namespace Template

/-- What may stand between the braces: an identifier, and segments of word characters set off by dots. -/
def IsReference (cs : List Char) : Prop :=
  ∃ (first : Char) (others : List Char) (segments : List (List Char)),
    cs = first :: others ++ segments.flatMap ('.' :: ·) ∧ isLetter first = true ∧ (∀ c ∈ others, isWord c = true) ∧
    ∀ segment ∈ segments, segment ≠ [] ∧ ∀ c ∈ segment, isWord c = true

def braced (cs : List Char) : List Char := '\x7b' :: cs ++ ['\x7d']

/-- The placeholder of this name stands in the text after so many characters. -/
def Occurs (text : List Char) (start : Nat) (name : String) : Prop :=
  IsReference name.toList ∧ ∃ before after, text = before ++ braced name.toList ++ after ∧ before.length = start

/-- Parts hold the placeholder of this name after so many characters. -/
def Holds (parts : List Part) (start : Nat) (name : String) : Prop :=
  ∃ before after, parts = before ++ .placeholder name :: after ∧ (before.flatMap Part.written).length = start

/-- A text is made of these parts, whose placeholders are exactly those that occur in it. -/
structure Cut (text : List Char) (parts : List Part) : Prop where
  whole : text = parts.flatMap Part.written
  occurs_iff : ∀ start name, Occurs text start name ↔ Holds parts start name

section Characters

variable {c : Char}

theorem isWord_of_isLetter (letter : isLetter c = true) : isWord c = true := by
  rw [isWord, letter, Bool.true_or]

theorem ne_of_isWord (word : isWord c = true) : c ≠ '.' ∧ c ≠ '\x7b' ∧ c ≠ '\x7d' := by
  refine ⟨?_, ?_, ?_⟩ <;> rintro rfl <;> exact absurd word (by decide)

end Characters

theorem isName_iff {cs : List Char} : isName cs = true ↔ IsReference cs := by
  constructor
  · intro name
    unfold isName at name
    split at name
    next first others segments split =>
      simp only [Bool.and_eq_true, List.all_eq_true, Bool.not_eq_true', List.isEmpty_eq_false_iff] at name
      exact ⟨first, others, segments, eq_joined_of_splitBy split, name.1.1, name.1.2, name.2⟩
    next => cases name
  · rintro ⟨first, others, segments, rfl, letter, words, nonempty⟩
    have dotless {part : List Char} (words : ∀ c ∈ part, isWord c = true) : '.' ∉ part :=
      fun dot => (ne_of_isWord (words '.' dot)).1 rfl
    have ahead : ∀ c ∈ first :: others, isWord c = true := List.forall_mem_cons.mpr ⟨isWord_of_isLetter letter, words⟩
    rw [isName, splitBy_joined (dotless ahead) fun segment member => dotless (nonempty segment member).2]
    simpa [letter] using ⟨words, nonempty⟩

/-- A reference holds nothing but word characters and dots. -/
theorem IsReference.plain {cs : List Char} (reference : IsReference cs) : ∀ c ∈ cs, isWord c = true ∨ c = '.' := by
  obtain ⟨first, others, segments, rfl, letter, words, nonempty⟩ := reference
  intro c member
  rcases List.mem_append.mp member with ahead | later
  · rcases List.mem_cons.mp ahead with rfl | rest
    · exact .inl (isWord_of_isLetter letter)
    · exact .inl (words c rest)
  · obtain ⟨segment, inSegments, here⟩ := List.mem_flatMap.mp later
    rcases List.mem_cons.mp here with rfl | rest
    · exact .inr rfl
    · exact .inl ((nonempty segment inSegments).2 c rest)

theorem IsReference.ne_brace {cs : List Char} (reference : IsReference cs) :
    ∀ c ∈ cs, c ≠ '\x7b' ∧ c ≠ '\x7d' := by
  intro c member
  rcases reference.plain c member with word | rfl
  · exact (ne_of_isWord word).2
  · decide

section Place

variable {text rest cs : List Char} {start next : Nat} {name other : String} {c : Char} {parts : List Part}

theorem Occurs.getElem? (occurs : Occurs text start name) : text[start]? = some '\x7b' := by
  obtain ⟨_, before, after, rfl, rfl⟩ := occurs
  simp [braced]

/-- Inside a placeholder no other one begins. -/
theorem Occurs.getElem?_inside (occurs : Occurs text start name) (lower : start < next)
    (upper : next < start + (braced name.toList).length) : text[next]? ≠ some '\x7b' := by
  obtain ⟨reference, before, after, rfl, rfl⟩ := occurs
  obtain ⟨k, rfl⟩ : ∃ k, next = before.length + (k + 1) := ⟨next - before.length - 1, by omega⟩
  have inside : k < name.toList.length + 1 := by
    simp only [braced, List.cons_append, List.length_cons, List.length_append, List.length_nil] at upper
    omega
  have found : (before ++ braced name.toList ++ after)[before.length + (k + 1)]? = (name.toList ++ ['\x7d'])[k]? := by
    have long : before.length + (k + 1) < (before ++ braced name.toList).length := by
      simp only [braced, List.cons_append, List.length_cons, List.length_append, List.length_nil]
      omega
    rw [List.getElem?_append_left long, List.getElem?_append_right (Nat.le_add_right _ _), Nat.add_sub_cancel_left]
    rfl
  rw [found]
  intro brace
  rcases List.mem_append.mp (List.mem_of_getElem? brace) with member | closing
  · exact (reference.ne_brace _ member).1 rfl
  · exact absurd closing (by decide)

/-- The first closing brace ends a placeholder. -/
theorem IsReference.append_inj {first second after after' : List Char} (reference : IsReference first)
    (reference' : IsReference second) (same : first ++ '\x7d' :: after = second ++ '\x7d' :: after') :
    first = second ∧ after = after' := by
  rcases List.append_eq_append_iff.mp same with ⟨more, longer, later⟩ | ⟨more, longer, later⟩
  · cases more with
    | nil => simp_all
    | cons c more =>
      obtain ⟨rfl, _⟩ := List.cons.inj later
      exact absurd rfl (reference'.ne_brace '\x7d' (by simp [longer])).2
  · cases more with
    | nil => simp_all
    | cons c more =>
      obtain ⟨rfl, _⟩ := List.cons.inj later
      exact absurd rfl (reference.ne_brace '\x7d' (by simp [longer])).2

theorem Occurs.name_eq (occurs : Occurs text start name) (occurs' : Occurs text start other) : name = other := by
  obtain ⟨reference, before, after, rfl, rfl⟩ := occurs
  obtain ⟨reference', before', after', same, length⟩ := occurs'
  rw [List.append_assoc, List.append_assoc] at same
  have tails := List.append_inj_right same length.symm
  have inner : name.toList ++ '\x7d' :: after = other.toList ++ '\x7d' :: after' := by simpa [braced] using tails
  exact String.toList_inj.mp (reference.append_inj reference' inner).1

/-- Placeholders are the same, or one ends before the other begins. -/
theorem Occurs.disjoint (first : Occurs text start name) (second : Occurs text next other) :
    (start = next ∧ name = other) ∨ start + (braced name.toList).length ≤ next ∨
      next + (braced other.toList).length ≤ start := by
  rcases Nat.lt_trichotomy start next with before | rfl | after
  · refine .inr (.inl (Nat.not_lt.mp fun overlap => ?_))
    exact first.getElem?_inside before overlap second.getElem?
  · exact .inl ⟨rfl, first.name_eq second⟩
  · refine .inr (.inr (Nat.not_lt.mp fun overlap => ?_))
    exact second.getElem?_inside after overlap first.getElem?

theorem occurs_zero_iff : Occurs text 0 name ↔ IsReference name.toList ∧ braced name.toList <+: text := by
  constructor
  · rintro ⟨reference, before, after, rfl, none⟩
    rw [List.length_eq_zero_iff.mp none]
    exact ⟨reference, after, rfl⟩
  · rintro ⟨reference, after, rfl⟩
    exact ⟨reference, [], after, rfl, rfl⟩

/-- What stands before a place does not matter for what occurs there. -/
theorem occurs_append_iff {front : List Char} :
    Occurs (front ++ rest) (front.length + start) name ↔ Occurs rest start name := by
  constructor
  · rintro ⟨reference, before, after, same, length⟩
    have ahead : front <+: before := by
      refine List.prefix_of_prefix_length_le (List.prefix_append front rest) ?_ (by omega)
      exact ⟨braced name.toList ++ after, by rw [same, List.append_assoc]⟩
    obtain ⟨between, rfl⟩ := ahead
    rw [List.append_assoc, List.append_assoc, List.append_cancel_left_eq, ← List.append_assoc] at same
    rw [List.length_append, Nat.add_left_cancel_iff] at length
    exact ⟨reference, between, after, same, length⟩
  · rintro ⟨reference, before, after, rfl, rfl⟩
    exact ⟨reference, front ++ before, after, by simp, by simp⟩

theorem not_occurs_of_ne (plain : c ≠ '\x7b') (name : String) : ¬ Occurs (c :: rest) 0 name := by
  intro occurs
  have first := occurs.getElem?
  exact plain (Option.some.inj first)

theorem holds_cons_iff {part : Part} :
    Holds (part :: parts) start name ↔
      (start = 0 ∧ part = .placeholder name) ∨ ∃ later, start = part.written.length + later ∧ Holds parts later name := by
  constructor
  · rintro ⟨before, after, same, rfl⟩
    cases before with
    | nil =>
      obtain ⟨rfl, rfl⟩ := List.cons.inj same
      exact .inl ⟨rfl, rfl⟩
    | cons first before =>
      obtain ⟨rfl, rfl⟩ := List.cons.inj same
      exact .inr ⟨_, List.length_append, before, after, rfl, rfl⟩
  · rintro (⟨rfl, rfl⟩ | ⟨later, rfl, before, after, rfl, rfl⟩)
    · exact ⟨[], parts, rfl, rfl⟩
    · exact ⟨part :: before, after, rfl, List.length_append⟩

theorem length_written_pos (part : Part) : 0 < part.written.length := by
  cases part <;> exact Nat.succ_pos _

theorem holds_zero_iff {part : Part} (parts : List Part) :
    Holds (part :: parts) 0 name ↔ part = .placeholder name := by
  rw [holds_cons_iff]
  refine ⟨fun holds => ?_, fun same => .inl ⟨rfl, same⟩⟩
  rcases holds with ⟨_, same⟩ | ⟨later, length, _⟩
  · exact same
  · have := length_written_pos part
    omega

end Place

namespace Cut

variable {rest candidate : List Char} {name : String} {c : Char} {part : Part} {parts : List Part}

theorem nil : Cut [] [] where
  whole := rfl
  occurs_iff start name := by
    refine iff_of_false (fun occurs => ?_) (fun ⟨before, after, same, _⟩ => ?_)
    · exact absurd occurs.getElem? (by simp)
    · cases before <;> cases same

/-- A part is put before others if nothing but it occurs where it stands. -/
theorem cons (cut : Cut rest parts)
    (own : ∀ start name, Occurs (part.written ++ rest) start name → start < part.written.length →
      start = 0 ∧ part = .placeholder name)
    (there : ∀ name, part = .placeholder name → IsReference name.toList) :
    Cut (part.written ++ rest) (part :: parts) where
  whole := by rw [cut.whole, List.flatMap_cons]
  occurs_iff start name := by
    rw [holds_cons_iff]
    constructor
    · intro occurs
      by_cases here : start < part.written.length
      · exact .inl (own start name occurs here)
      · obtain ⟨later, rfl⟩ := Nat.exists_eq_add_of_le (Nat.not_lt.mp here)
        exact .inr ⟨later, rfl, (cut.occurs_iff later name).mp (occurs_append_iff.mp occurs)⟩
    · rintro (⟨rfl, rfl⟩ | ⟨later, rfl, holds⟩)
      · exact ⟨there name rfl, [], rest, rfl, rfl⟩
      · exact occurs_append_iff.mpr ((cut.occurs_iff later name).mpr holds)

theorem literal (cut : Cut rest parts) (free : ∀ name, ¬ Occurs (c :: rest) 0 name) :
    Cut (c :: rest) (.literal c :: parts) := by
  have own : ∀ start name, Occurs ((Part.literal c).written ++ rest) start name → start < 1 →
      start = 0 ∧ Part.literal c = .placeholder name := by
    intro start name occurs here
    obtain rfl : start = 0 := Nat.lt_one_iff.mp here
    exact absurd occurs (free name)
  exact cut.cons own fun name same => nomatch same

theorem placeholder (cut : Cut rest parts) (reference : IsReference name.toList) :
    Cut (braced name.toList ++ rest) (.placeholder name :: parts) := by
  have first : Occurs (braced name.toList ++ rest) 0 name := ⟨reference, [], rest, rfl, rfl⟩
  refine cut.cons (fun start other occurs here => ?_) fun _ same => Part.placeholder.inj same ▸ reference
  rcases first.disjoint occurs with ⟨rfl, rfl⟩ | after | before
  · exact ⟨rfl, rfl⟩
  · have own : (Part.placeholder name).written = braced name.toList := rfl
    rw [own] at here
    omega
  · exact absurd before (by simp [braced])

theorem literals (cut : Cut rest parts) (plain : ∀ c ∈ candidate, c ≠ '\x7b') :
    Cut (candidate ++ rest) (candidate.map .literal ++ parts) := by
  induction candidate with
  | nil => exact cut
  | cons c candidate ih =>
    obtain ⟨own, others⟩ := List.forall_mem_cons.mp plain
    exact (ih others).literal (not_occurs_of_ne own)

/-- What is left of a cut when its first part is taken away. -/
theorem tail {text : List Char} (cut : Cut text (part :: parts)) :
    ∃ rest, text = part.written ++ rest ∧ Cut rest parts := by
  refine ⟨parts.flatMap Part.written, cut.whole, rfl, fun start name => ?_⟩
  have shifted := cut.occurs_iff (part.written.length + start) name
  rw [cut.whole, List.flatMap_cons, occurs_append_iff, holds_cons_iff] at shifted
  rw [shifted]
  constructor
  · rintro (⟨none, _⟩ | ⟨later, same, holds⟩)
    · have := length_written_pos part
      omega
    · rwa [Nat.add_left_cancel same]
  · exact fun holds => .inr ⟨start, rfl, holds⟩

theorem ne_nil {text : List Char} (cut : Cut text (part :: parts)) : text ≠ [] := by
  obtain ⟨rest, whole, _⟩ := cut.tail
  rintro rfl
  exact List.ne_nil_of_length_pos (length_written_pos part) (List.append_eq_nil_iff.mp whole.symm).1

/-- A text is cut in one way only. -/
theorem unique {text : List Char} {other : List Part} (cut : Cut text parts) (cut' : Cut text other) :
    parts = other := by
  induction parts generalizing text other with
  | nil =>
    cases other with
    | nil => rfl
    | cons => exact absurd cut.whole cut'.ne_nil
  | cons part parts ih =>
    obtain ⟨rest, here, later⟩ := cut.tail
    cases other with
    | nil => exact absurd cut'.whole cut.ne_nil
    | cons part' other =>
      obtain ⟨rest', here', later'⟩ := cut'.tail
      have agree (name : String) : part = .placeholder name ↔ part' = .placeholder name := by
        rw [← holds_zero_iff parts, ← cut.occurs_iff, cut'.occurs_iff, holds_zero_iff]
      have same : part = part' := by
        cases part with
        | placeholder name => exact ((agree name).mp rfl).symm
        | literal c =>
          cases part' with
          | placeholder name => exact (agree name).mpr rfl
          | literal c' =>
            have first : c :: rest = c' :: rest' := here.symm.trans here'
            rw [(List.cons.inj first).1]
      subst same
      rw [here, List.append_cancel_left_eq] at here'
      subst here'
      rw [ih later later']

end Cut

section Scan

variable {candidate rest : List Char}

/-- A candidate that cannot go on, and is not closed as a name, is no placeholder. -/
theorem not_occurs_of_stop (plain : ∀ c ∈ candidate, isWord c = true ∨ c = '.')
    (stop : ∀ c later, rest = c :: later →
      ¬ (isWord c = true ∨ c = '.') ∧ ¬ (c = '\x7d' ∧ isName candidate = true)) (name : String) :
    ¬ Occurs ('\x7b' :: candidate ++ rest) 0 name := by
  intro occurs
  obtain ⟨reference, after, same⟩ := occurs_zero_iff.mp occurs
  have inner : name.toList ++ '\x7d' :: after = candidate ++ rest := by simpa [braced] using same
  rcases List.append_eq_append_iff.mp inner with ⟨more, longer, later⟩ | ⟨more, longer, later⟩
  · cases more with
    | nil =>
      rw [List.append_nil] at longer
      exact (stop _ after later.symm).2 ⟨rfl, isName_iff.mpr (longer ▸ reference)⟩
    | cons c more =>
      obtain ⟨rfl, _⟩ := List.cons.inj later
      exact absurd (plain '\x7d' (by simp [longer])) (by decide)
  · cases more with
    | nil =>
      rw [List.append_nil] at longer
      exact (stop _ after later).2 ⟨rfl, isName_iff.mpr (longer ▸ reference)⟩
    | cons c more => exact (stop c _ later).1 (reference.plain c (by simp [longer]))

theorem Cut.abandoned {parts : List Part} (cut : Cut rest parts) (plain : ∀ c ∈ candidate, isWord c = true ∨ c = '.')
    (free : ∀ name, ¬ Occurs ('\x7b' :: candidate ++ rest) 0 name) :
    Cut ('\x7b' :: candidate ++ rest) (Template.literals candidate ++ parts) := by
  refine Cut.literal (cut.literals fun c member => ?_) free
  rcases plain c member with word | rfl
  · exact (ne_of_isWord word).2.1
  · decide

/-- The scanner cuts a text at its placeholders, also when it has read an opening brace and a candidate. -/
theorem cut_scan (text : List Char) :
    Cut text (scan text none) ∧ ∀ candidate, (∀ c ∈ candidate, isWord c = true ∨ c = '.') →
      Cut ('\x7b' :: candidate.reverse ++ text) (scan text (some candidate)) := by
  induction text with
  | nil =>
    refine ⟨.nil, fun candidate plain => ?_⟩
    have plain : ∀ c ∈ candidate.reverse, isWord c = true ∨ c = '.' := fun c member => plain c (List.mem_reverse.mp member)
    have cut := Cut.nil.abandoned plain (not_occurs_of_stop plain nofun)
    simpa [scan] using cut
  | cons c rest ih =>
    obtain ⟨open', pending⟩ := ih
    constructor
    · unfold scan
      split
      next brace => exact brace ▸ pending [] nofun
      next plain => exact open'.literal (not_occurs_of_ne plain)
    · intro candidate plain
      have plain' : ∀ c ∈ candidate.reverse, isWord c = true ∨ c = '.' :=
        fun c member => plain c (List.mem_reverse.mp member)
      -- The candidate ends at the first character that is no part of a name, as a placeholder or as characters.
      have ends {parts : List Part} (cut : Cut (c :: rest) parts) (foreign : ¬ (isWord c = true ∨ c = '.'))
          (unclosed : ¬ (c = '\x7d' ∧ isName candidate.reverse = true)) :
          Cut ('\x7b' :: candidate.reverse ++ c :: rest) (Template.literals candidate.reverse ++ parts) := by
        refine cut.abandoned plain' (not_occurs_of_stop plain' fun next later same => ?_)
        obtain ⟨rfl, _⟩ := List.cons.inj same
        exact ⟨foreign, unclosed⟩
      unfold scan
      split
      next closed =>
        obtain ⟨rfl, name⟩ := closed
        have reference : IsReference (String.ofList candidate.reverse).toList := by
          rw [String.toList_ofList]
          exact isName_iff.mp name
        simpa [braced, String.toList_ofList] using open'.placeholder reference
      next unclosed =>
        split
        next brace =>
          subst brace
          exact ends (pending [] nofun) (by decide) unclosed
        next noBrace =>
          split
          next goes =>
            have longer := pending (c :: candidate) (List.forall_mem_cons.mpr ⟨goes, plain⟩)
            rwa [List.reverse_cons, List.cons_append, List.append_assoc] at longer
          next stops => exact ends (open'.literal (not_occurs_of_ne noBrace)) stops unclosed

theorem cut_parts (text : String) : Cut text.toList (parts text) := (cut_scan text.toList).1

end Scan

end Template

end Orchestra
