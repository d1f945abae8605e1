namespace Orchestra

/-- The text itself if it has at most this many characters, else its beginning and three dots. -/
def shorten (limit : Nat) (text : String) : String :=
  if limit < text.length then String.ofList (text.toList.take limit) ++ "..." else text

/-- The parts of a text between the occurrences of a separator; there is always at least one. -/
def splitBy (separator : Char) : List Char → List (List Char)
  | [] => [[]]
  | c :: rest =>
    if c = separator then [] :: splitBy separator rest
    else match splitBy separator rest with
      | [] => [[c]]
      | first :: others => (c :: first) :: others

theorem splitBy_ne_nil (separator : Char) (cs : List Char) : splitBy separator cs ≠ [] := by
  cases cs with
  | nil => simp [splitBy]
  | cons c rest =>
    unfold splitBy
    split
    · simp
    · split <;> simp

section SplitBy

variable {separator : Char} {cs first : List Char} {others : List (List Char)}

theorem splitBy_append (separator : Char) (cs rest : List Char) :
    splitBy separator (cs ++ separator :: rest) = splitBy separator cs ++ splitBy separator rest := by
  induction cs with
  | nil => simp [splitBy]
  | cons c cs ih =>
    rw [List.cons_append, splitBy, splitBy, ih]
    split
    · rfl
    · cases split : splitBy separator cs with
      | nil => exact absurd split (splitBy_ne_nil separator cs)
      | cons => rfl

theorem splitBy_of_notMem (absent : separator ∉ cs) : splitBy separator cs = [cs] := by
  induction cs with
  | nil => rfl
  | cons c cs ih =>
    rw [List.mem_cons, not_or] at absent
    rw [splitBy, if_neg (Ne.symm absent.1), ih absent.2]

/-- Parts without the separator are found again. -/
theorem splitBy_joined (absent : separator ∉ first) (absent' : ∀ part ∈ others, separator ∉ part) :
    splitBy separator (first ++ others.flatMap (separator :: ·)) = first :: others := by
  induction others generalizing first with
  | nil => rw [List.flatMap_nil, List.append_nil, splitBy_of_notMem absent]
  | cons second others ih =>
    obtain ⟨own, rest⟩ := List.forall_mem_cons.mp absent'
    rw [List.flatMap_cons, List.cons_append, splitBy_append, splitBy_of_notMem absent, ih own rest]
    rfl

theorem eq_joined_of_splitBy (split : splitBy separator cs = first :: others) :
    cs = first ++ others.flatMap (separator :: ·) := by
  induction cs generalizing first others with
  | nil => cases split; rfl
  | cons c cs ih =>
    rw [splitBy] at split
    split at split
    next same =>
      cases split
      cases later : splitBy separator cs with
      | nil => exact absurd later (splitBy_ne_nil separator cs)
      | cons second others =>
        rw [same, ih later]
        rfl
    next =>
      cases later : splitBy separator cs with
      | nil => exact absurd later (splitBy_ne_nil separator cs)
      | cons second others =>
        rw [later] at split
        cases split
        rw [ih later]
        rfl

theorem notMem_of_mem_splitBy {part : List Char} (member : part ∈ splitBy separator cs) : separator ∉ part := by
  induction cs generalizing part with
  | nil =>
    rw [splitBy, List.mem_singleton] at member
    rw [member]
    exact List.not_mem_nil
  | cons c cs ih =>
    rw [splitBy] at member
    split at member
    next =>
      rcases List.mem_cons.mp member with rfl | later
      · exact List.not_mem_nil
      · exact ih later
    next different =>
      cases split : splitBy separator cs with
      | nil => exact absurd split (splitBy_ne_nil separator cs)
      | cons second others =>
        rw [split] at member ih
        rcases List.mem_cons.mp member with rfl | later
        · rw [List.mem_cons, not_or]
          exact ⟨Ne.symm different, ih List.mem_cons_self⟩
        · exact ih (List.mem_cons_of_mem _ later)

end SplitBy

theorem toList_dotted (first second : String) :
    (first ++ "." ++ second).toList = first.toList ++ '.' :: second.toList := by
  simp

section Cut

variable {separator : Char} {front : List Char}

theorem ne_of_notMem (absent : separator ∉ front) : ∀ c ∈ front, decide (c ≠ separator) = true :=
  fun c member => decide_eq_true fun same : c = separator => absent (same ▸ member)

theorem dropWhile_ne (absent : separator ∉ front) (back : List Char) :
    (front ++ separator :: back).dropWhile (· ≠ separator) = separator :: back := by
  rw [List.dropWhile_append_of_pos (ne_of_notMem absent)]
  simp

theorem takeWhile_ne (absent : separator ∉ front) (back : List Char) :
    (front ++ separator :: back).takeWhile (· ≠ separator) = front := by
  rw [List.takeWhile_append_of_pos (ne_of_notMem absent)]
  simp

end Cut

end Orchestra
