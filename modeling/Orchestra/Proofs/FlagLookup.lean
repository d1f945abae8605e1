import Orchestra.Flag.Config

namespace Orchestra

namespace FlagConfig

/-- The part of a name after its first dot, or all of it if it has none. -/
def bareName (flag : String) : String :=
  if '.' ∈ flag.toList then String.ofList (flag.toList.dropWhile (· ≠ '.')).tail else flag

/-- The category holds a flag of this name, and no lesser one does. -/
def LeastHolding (config : FlagConfig) (name least : String) : Prop :=
  (config.spec? least name).isSome = true ∧
    ∀ other, (config.spec? other name).isSome = true → least ≤ other

/-- A configuration, and the one after a flag was added to it or replaced in it: what is held, and what each name
then leads to. -/
structure Amended (config amended : FlagConfig) (category name : String) (spec : FlagSpec) : Prop where
  held : ∀ other flag, amended.spec? other flag =
    if other = category ∧ flag = name then some spec else config.spec? other flag
  elsewhere : ∀ flag, bareName flag ≠ name → amended.lookup flag = config.lookup flag
  own : '.' ∉ category.toList → amended.lookup (category ++ "." ++ name) = some spec
  kept : ∀ other, other ≠ category → (config.spec? other name).isSome = true →
    amended.lookup (other ++ "." ++ name) = config.lookup (other ++ "." ++ name)
  /-- Any other such name has no category, or one that is not the flag's own and lacks the flag. -/
  anywhere : ∀ flag, bareName flag = name →
    (∀ other, flag = other ++ "." ++ name → other ≠ category ∧ config.spec? other name = none) →
      ∃ least, amended.LeastHolding name least ∧ amended.lookup flag = amended.spec? least name

variable {config other : FlagConfig} {category name flag : String} {spec found : FlagSpec}

theorem bareName_of_plain (plain : '.' ∉ flag.toList) : bareName flag = flag := if_neg plain

theorem bareName_qualified (dotless : '.' ∉ category.toList) : bareName (category ++ "." ++ name) = name := by
  rw [bareName, toList_dotted, if_pos (by simp), dropWhile_ne dotless, List.tail_cons, String.ofList_toList]

/-- A name with a dot is a category without a dot, and a bare name. -/
theorem exists_qualified (dotted : '.' ∈ flag.toList) :
    ∃ category name, '.' ∉ category.toList ∧ flag = category ++ "." ++ name := by
  obtain ⟨front, back, whole, dotless⟩ := List.eq_append_cons_of_mem dotted
  refine ⟨.ofList front, .ofList back, by rwa [String.toList_ofList], String.toList_injective ?_⟩
  rw [toList_dotted, whole, String.toList_ofList, String.toList_ofList]

/-- A name with a dotted category is cut inside the category. -/
theorem bareName_ne_of_dotted (dotted : '.' ∈ category.toList) : bareName (category ++ "." ++ name) ≠ name := by
  obtain ⟨front, back, dotless, rfl⟩ := exists_qualified dotted
  have whole : front ++ "." ++ back ++ "." ++ name = front ++ "." ++ (back ++ "." ++ name) := by
    simp only [String.append_assoc]
  rw [whole, bareName_qualified dotless]
  intro same
  have lengths := congrArg String.length same
  simp only [String.length_append] at lengths
  have dot : ".".length = 1 := rfl
  omega

theorem mem_keys_of_spec? (holds : (config.spec? category name).isSome = true) : category ∈ config.keys := by
  obtain ⟨spec, holds⟩ := Option.isSome_iff_exists.mp holds
  obtain ⟨flags, found, _⟩ := Option.bind_eq_some_iff.mp holds
  exact Dict.mem_keys_iff.mpr (Option.isSome_iff_exists.mpr ⟨flags, found⟩)

/-- The first category that holds a flag is the least one. -/
theorem anywhere?_eq_some_iff :
    config.anywhere? name = some found ↔
      ∃ least, config.LeastHolding name least ∧ config.spec? least name = some found := by
  have ascending := config.keys_ascending
  rw [anywhere?_eq, List.findSome?_eq_some_iff]
  constructor
  · rintro ⟨before, least, after, keys, holds, none⟩
    refine ⟨least, ⟨by rw [holds, Option.isSome_some], fun other holds' => ?_⟩, holds⟩
    rw [keys, List.pairwise_append, List.pairwise_cons] at ascending
    have member := mem_keys_of_spec? holds'
    rw [keys, List.mem_append, List.mem_cons] at member
    rcases member with earlier | rfl | later
    · rw [none other earlier] at holds'
      cases holds'
    · exact String.le_refl other
    · exact String.not_lt.mp fun lower => String.lt_irrefl _ (String.lt_trans lower (ascending.2.1.1 other later))
  · rintro ⟨least, ⟨holds', minimal⟩, holds⟩
    obtain ⟨before, after, keys⟩ := List.append_of_mem (mem_keys_of_spec? holds')
    refine ⟨before, least, after, keys, holds, fun other earlier => ?_⟩
    rw [keys, List.pairwise_append] at ascending
    have lower : other < least := ascending.2.2 other earlier least List.mem_cons_self
    rw [← Option.not_isSome_iff_eq_none]
    exact fun present => String.not_lt.mpr (minimal other present) lower

/-- A search through all categories looks at the flags of the name only. -/
theorem anywhere?_congr (same : ∀ category, config.spec? category name = other.spec? category name) :
    config.anywhere? name = other.anywhere? name := by
  refine Option.ext fun found => ?_
  simp only [anywhere?_eq_some_iff, LeastHolding, same]

theorem exists_leastHolding (holds : (config.spec? category name).isSome = true) :
    ∃ least, config.LeastHolding name least ∧ config.anywhere? name = config.spec? least name := by
  cases search : config.anywhere? name with
  | none =>
    rw [anywhere?_eq, List.findSome?_eq_none_iff] at search
    rw [search category (mem_keys_of_spec? holds)] at holds
    cases holds
  | some found =>
    obtain ⟨least, holding, holds⟩ := anywhere?_eq_some_iff.mp search
    exact ⟨least, holding, holds.symm⟩

/-- A lookup looks at the flags of the bare name only. -/
theorem lookup_congr
    (same : ∀ category, config.spec? category (bareName flag) = other.spec? category (bareName flag)) :
    config.lookup flag = other.lookup flag := by
  by_cases dotted : '.' ∈ flag.toList
  · obtain ⟨category, bare, dotless, rfl⟩ := exists_qualified dotted
    rw [bareName_qualified dotless] at same
    rw [lookup_qualified dotless, lookup_qualified dotless, same, anywhere?_congr same]
  · rw [bareName_of_plain dotted] at same
    rw [lookup_of_plain dotted, lookup_of_plain dotted, anywhere?_congr same]

/-- A name whose category lacks the flag, or that has no category, is looked for in all categories. -/
theorem lookup_eq_anywhere (bare : bareName flag = name)
    (lacking : ∀ category, flag = category ++ "." ++ name → config.spec? category name = none) :
    config.lookup flag = config.anywhere? name := by
  by_cases dotted : '.' ∈ flag.toList
  · obtain ⟨category, bare', dotless, rfl⟩ := exists_qualified dotted
    obtain rfl := (bareName_qualified dotless).symm.trans bare
    rw [lookup_qualified dotless, lacking category rfl, Option.none_or]
  · rw [bareName_of_plain dotted] at bare
    rw [lookup_of_plain dotted, bare]

/-- A name whose category holds the flag leads to that flag. -/
theorem lookup_of_holds (dotless : '.' ∉ category.toList) (holds : config.spec? category name = some spec) :
    config.lookup (category ++ "." ++ name) = some spec := by
  rw [lookup_qualified dotless, holds, Option.some_or]

/-- A name is looked for in its category and then, without it, in all categories; so a flag that is added is found
under its own name, and may also be found, or hidden, under names of other categories. -/
theorem amended_withFlag (config : FlagConfig) (category name : String) (spec : FlagSpec) :
    config.Amended (config.withFlag category name spec) category name spec := by
  generalize same : config.withFlag category name spec = amended
  have held (other flag : String) : amended.spec? other flag =
      if other = category ∧ flag = name then some spec else config.spec? other flag := by
    rw [← same, spec?_withFlag]
    simp only [eq_comm]
  have inserted : amended.spec? category name = some spec := by rw [held, if_pos ⟨rfl, rfl⟩]
  have unchanged {other : String} (different : other ≠ category) :
      amended.spec? other name = config.spec? other name := by
    rw [held, if_neg fun both => different both.1]
  have elsewhere (flag : String) (different : bareName flag ≠ name) : amended.lookup flag = config.lookup flag :=
    lookup_congr fun other => by rw [held, if_neg fun both => different both.2]
  refine ⟨held, elsewhere, fun dotless => lookup_of_holds dotless inserted, fun other different holds => ?_,
    fun flag bare lacking => ?_⟩
  · by_cases dotted : '.' ∈ other.toList
    · exact elsewhere _ (bareName_ne_of_dotted dotted)
    · obtain ⟨found, holds⟩ := Option.isSome_iff_exists.mp holds
      rw [lookup_of_holds dotted holds, lookup_of_holds dotted ((unchanged different).trans holds)]
  · have search : amended.lookup flag = amended.anywhere? name :=
      lookup_eq_anywhere bare fun other whole => (unchanged (lacking other whole).1).trans (lacking other whole).2
    obtain ⟨least, holding, first⟩ := exists_leastHolding (Option.isSome_iff_exists.mpr ⟨spec, inserted⟩)
    exact ⟨least, holding, search.trans first⟩

/-- A flag that is added to a lesser category is found in its stead by names of other categories. -/
example (spec spec' : FlagSpec) :
    (((∅ : FlagConfig).withFlag "ui" "beta" spec).withFlag "api" "beta" spec').lookup "web.beta" = some spec' := rfl

end FlagConfig

end Orchestra
