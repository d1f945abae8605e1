import Mathlib.Data.List.Forall2
import Mathlib.Data.List.Induction
import Mathlib.Data.List.Nodup
import Orchestra.Audit

namespace Orchestra

/-- What the caller gives of a record. -/
def AuditEntry.content (entry : AuditEntry) : String × Json := (entry.kind, entry.payload)

namespace AuditList

def ofCalls (calls : List AuditEntry) : AuditList :=
  calls.foldl (fun list call => list.store call.id call.kind call.payload call.createdAt) {}

theorem entries_foldl_store (list : AuditList) (calls : List AuditEntry) :
    (calls.foldl (fun list call => list.store call.id call.kind call.payload call.createdAt) list).entries =
      list.entries ++ calls := by
  induction calls generalizing list with
  | nil => rw [List.foldl_nil, List.append_nil]
  | cons call rest ih => rw [List.foldl_cons, ih, store, List.append_assoc, List.singleton_append]

theorem entries_ofCalls (calls : List AuditEntry) : (ofCalls calls).entries = calls := entries_foldl_store {} calls

/-- The records of a kind, newest first. -/
def latest (list : AuditList) (kind : String) : List AuditEntry := (list.entries.filter (·.kind = kind)).reverse

theorem content_latest {list other : AuditList} (same : list.entries.map (·.content) = other.entries.map (·.content))
    (kind : String) : (list.latest kind).map (·.content) = (other.latest kind).map (·.content) := by
  have ofKind (entries : List AuditEntry) : (entries.filter (·.kind = kind)).map (·.content) =
      (entries.map (·.content)).filter (·.1 = kind) := by
    rw [List.filter_map]
    rfl
  rw [latest, latest, List.map_reverse, List.map_reverse, ofKind, ofKind, same]

end AuditList

/-- The row holds the record. -/
structure AuditRow.Holds (row : AuditRow) (entry : AuditEntry) : Prop where
  id : row.id = entry.id
  kind : row.kind = entry.kind
  payload : row.payload = entry.payload.compact
  createdAt : row.createdAt = entry.createdAt

namespace AuditTable

/-- The row is stored before the other one. -/
def Earlier (row other : AuditRow) : Prop := row.number < other.number ∧ row.createdAt ≤ other.createdAt

theorem mergeSort_newer {rows : List AuditRow} (order : rows.Pairwise Earlier) :
    rows.mergeSort AuditRow.newer = rows.reverse := by
  have numbers : (rows.map (·.number)).Nodup := by
    rw [List.Nodup, List.pairwise_map]
    exact order.imp fun earlier => Nat.ne_of_lt earlier.1
  have sorted : (rows.mergeSort AuditRow.newer).Pairwise fun row other => row.newer other = true := by
    apply List.pairwise_mergeSort
    · intro a b c first second
      rw [AuditRow.newer_iff] at first second ⊢
      omega
    · intro a b
      rw [Bool.or_eq_true, AuditRow.newer_iff, AuditRow.newer_iff]
      omega
  have reversed : rows.reverse.Pairwise fun row other => row.newer other = true := by
    rw [List.pairwise_reverse]
    refine order.imp fun {row other} earlier => AuditRow.newer_iff.mpr ?_
    obtain ⟨number, moment⟩ := earlier
    omega
  have perm : (rows.mergeSort AuditRow.newer).Perm rows.reverse :=
    (List.mergeSort_perm rows _).trans (List.reverse_perm rows).symm
  refine perm.eq_of_pairwise (fun a b left right before after => ?_) sorted reversed
  -- Neither is older than the other, so they have one number, which no two rows share.
  rw [AuditRow.newer_iff] at before after
  have same : a.number = b.number := by omega
  exact List.inj_on_of_nodup_map numbers (List.mem_mergeSort.mp left) (List.mem_reverse.mp right) same

theorem signedLimit_eq {limit : Nat} (range : limit < Nat.pow 2 64) :
    signedLimit limit = if limit < numberBound then (limit : Int) else limit - Nat.pow 2 64 := by
  have whole : Nat.pow 2 64 = 18446744073709551616 := rfl
  have half : numberBound = 9223372036854775808 := rfl
  have signed : signedLimit limit = (limit : Int).bmod 18446744073709551616 := rfl
  rw [whole] at range
  rw [signed, half, whole]
  split
  next small => exact Int.bmod_eq_of_le (by omega) (by omega)
  next large =>
    rw [← Int.sub_bmod_right]
    exact Int.bmod_eq_of_le (by omega) (by omega)

example : signedLimit (Nat.pow 2 64 - 1) = -1 := by decide

/-- A limit that counts as negative exceeds the number of any rows. -/
theorem limited_signedLimit {rows : List AuditRow} (few : rows.length < numberBound) {limit : Nat}
    (range : limit < Nat.pow 2 64) : limited rows (signedLimit limit) = rows.take limit := by
  rw [limited, signedLimit_eq range]
  by_cases small : limit < numberBound
  · rw [if_pos small, if_neg (Int.not_lt.mpr (Int.natCast_nonneg limit)), Int.toNat_natCast]
  · have negative : (limit : Int) - Nat.pow 2 64 < 0 := Int.sub_neg_of_lt (Int.ofNat_lt.mpr range)
    rw [if_neg small, if_pos negative, List.take_of_length_le (Nat.le_trans (Nat.le_of_lt few) (Nat.le_of_not_lt small))]

/-- A table takes records of different identities, as many as there are numbers for them. -/
structure Storable (calls : List AuditEntry) : Prop where
  ids : (calls.map (·.id)).Nodup
  room : calls.length < numberBound

/-- The table keeps the record of every call, in order. -/
structure Keeps (table : AuditTable) (calls : List AuditEntry) : Prop where
  rows : List.Forall₂ AuditRow.Holds table.rows calls
  numbers : table.rows.map (·.number) = List.range' 1 calls.length
  storable : Storable calls

variable {table after : AuditTable} {calls : List AuditEntry}

/-- What a row has in common with the record that it holds, the rows have in common with the calls. -/
theorem Keeps.map_eq {α : Type} {f : AuditRow → α} {g : AuditEntry → α} (keeps : table.Keeps calls)
    (common : ∀ row call, row.Holds call → f row = g call) : table.rows.map f = calls.map g := by
  rw [← List.forall₂_eq_eq_eq, List.forall₂_map_left_iff, List.forall₂_map_right_iff]
  exact keeps.rows.imp common

theorem Keeps.map_id (keeps : table.Keeps calls) : table.rows.map (·.id) = calls.map (·.id) :=
  keeps.map_eq fun _ _ holds => holds.id

theorem foldl_max_range' (n : Nat) : (List.range' 1 n).foldl max 0 = n := by
  induction n with
  | zero => rfl
  | succ n ih =>
    rw [List.range'_concat, List.foldl_append, ih, List.foldl_cons, List.foldl_nil]
    omega

theorem Keeps.nextNumber (keeps : table.Keeps calls) : table.nextNumber = calls.length + 1 := by
  rw [AuditTable.nextNumber, keeps.numbers, foldl_max_range']

theorem storable_concat_iff {call : AuditEntry} : Storable (calls ++ [call]) ↔
    Storable calls ∧ call.id ∉ calls.map (·.id) ∧ calls.length + 1 < numberBound := by
  have ids : ((calls ++ [call]).map (·.id)).Nodup ↔ (calls.map (·.id)).Nodup ∧ call.id ∉ calls.map (·.id) := by
    rw [List.map_append, List.map_singleton, List.nodup_append_comm, List.singleton_append, List.nodup_cons, and_comm]
  have room : (calls ++ [call]).length = calls.length + 1 := List.length_append
  constructor
  · intro storable
    obtain ⟨distinct, free⟩ := ids.mp storable.ids
    have below := storable.room
    rw [room] at below
    exact ⟨⟨distinct, Nat.lt_of_succ_lt below⟩, free, below⟩
  · rintro ⟨storable, free, below⟩
    exact ⟨ids.mpr ⟨storable.ids, free⟩, room ▸ below⟩

/-- A call stores its record in a row of its own after the rows that there are. -/
theorem Keeps.store? (keeps : table.Keeps calls) (call : AuditEntry) (storable : Storable (calls ++ [call])) :
    ∃ row, table.store? call.id call.kind call.payload call.createdAt = some ⟨table.rows ++ [row]⟩ ∧
      Keeps ⟨table.rows ++ [row]⟩ (calls ++ [call]) := by
  obtain ⟨-, free, below⟩ := storable_concat_iff.mp storable
  have room : ¬ numberBound ≤ table.nextNumber := by
    rw [keeps.nextNumber]
    exact Nat.not_le_of_lt below
  rw [← keeps.map_id] at free
  refine ⟨_, if_neg (not_or.mpr ⟨free, room⟩), ?_, ?_, storable⟩
  · exact List.rel_append keeps.rows (.cons ⟨rfl, rfl, rfl, rfl⟩ .nil)
  · rw [List.map_append, keeps.numbers, List.map_singleton, keeps.nextNumber, List.length_append,
      List.length_singleton, List.range'_concat]
    simp only [Nat.one_mul, Nat.add_comm]

/-- A table refuses a call whose identity is taken, or for which there is no number. -/
theorem Keeps.store?_eq_none (keeps : table.Keeps calls) (call : AuditEntry) (refused : ¬ Storable (calls ++ [call])) :
    table.store? call.id call.kind call.payload call.createdAt = none := by
  refine if_pos (Decidable.not_not.mp fun accepted => refused ?_)
  obtain ⟨free, room⟩ := not_or.mp accepted
  rw [keeps.map_id] at free
  rw [keeps.nextNumber] at room
  exact storable_concat_iff.mpr ⟨keeps.storable, free, Nat.lt_of_not_le room⟩

/-- The table after these calls, in order, if it takes them all. -/
def ofCalls? (calls : List AuditEntry) : Option AuditTable :=
  calls.foldlM (fun table call => table.store? call.id call.kind call.payload call.createdAt) {}

theorem ofCalls?_concat (calls : List AuditEntry) (call : AuditEntry) : ofCalls? (calls ++ [call]) =
    (ofCalls? calls).bind fun table => table.store? call.id call.kind call.payload call.createdAt := by
  rw [ofCalls?, List.foldlM_append, ofCalls?]
  congr 1
  funext table
  exact List.foldlM_cons.trans (bind_pure _)

theorem keeps_empty : Keeps {} [] := ⟨.nil, rfl, List.nodup_nil, Nat.two_pow_pos 63⟩

theorem keeps_ofCalls? (storable : Storable calls) : ∃ table, ofCalls? calls = some table ∧ table.Keeps calls := by
  induction calls using List.reverseRecOn with
  | nil => exact ⟨_, rfl, keeps_empty⟩
  | append_singleton calls call ih =>
    obtain ⟨table, stored, keeps⟩ := ih (storable_concat_iff.mp storable).1
    obtain ⟨row, next, kept⟩ := keeps.store? call storable
    exact ⟨_, by rw [ofCalls?_concat, stored, Option.bind_some, next], kept⟩

theorem storable_of_ofCalls? (stored : ofCalls? calls = some table) : Storable calls := by
  induction calls using List.reverseRecOn generalizing table with
  | nil => exact keeps_empty.storable
  | append_singleton calls call ih =>
    rw [ofCalls?_concat, Option.bind_eq_some_iff] at stored
    obtain ⟨before, early, next⟩ := stored
    obtain ⟨_, same, keeps⟩ := keeps_ofCalls? (ih early)
    obtain rfl := Option.some.inj (early.symm.trans same)
    by_contra refused
    rw [keeps.store?_eq_none call refused] at next
    cases next

theorem Keeps.of_ofCalls? (stored : ofCalls? calls = some table) : table.Keeps calls := by
  obtain ⟨_, same, keeps⟩ := keeps_ofCalls? (storable_of_ofCalls? stored)
  obtain rfl := Option.some.inj (stored.symm.trans same)
  exact keeps

/-- Later calls add rows, and leave the rows that there are. -/
theorem rows_prefix_of_append {more : List AuditEntry} (stored : ofCalls? (calls ++ more) = some after) :
    ∃ before, ofCalls? calls = some before ∧ before.rows <+: after.rows := by
  induction more using List.reverseRecOn generalizing after with
  | nil =>
    rw [List.append_nil] at stored
    exact ⟨after, stored, List.prefix_refl _⟩
  | append_singleton more call ih =>
    have storable := storable_of_ofCalls? stored
    rw [← List.append_assoc] at stored storable
    rw [ofCalls?_concat, Option.bind_eq_some_iff] at stored
    obtain ⟨middle, early, next⟩ := stored
    obtain ⟨before, first, earlier⟩ := ih early
    obtain ⟨row, added, -⟩ := (Keeps.of_ofCalls? early).store? call storable
    obtain rfl := Option.some.inj (next.symm.trans added)
    exact ⟨before, first, earlier.trans (List.prefix_append ..)⟩

/-- The rows of a table come one after the other in time, if the clock never went backwards. -/
theorem Keeps.order (keeps : table.Keeps calls) (clock : calls.Pairwise (·.createdAt ≤ ·.createdAt)) :
    table.rows.Pairwise Earlier := by
  have numbers : table.rows.Pairwise (·.number < ·.number) := by
    rw [← List.pairwise_map, keeps.numbers]
    exact List.pairwise_lt_range'
  have moments : table.rows.Pairwise (·.createdAt ≤ ·.createdAt) := by
    have same : table.rows.map (·.createdAt) = calls.map (·.createdAt) := keeps.map_eq fun _ _ holds => holds.createdAt
    rw [← List.pairwise_map (R := (· ≤ ·)), same, List.pairwise_map]
    exact clock
  exact numbers.and moments

theorem decode?_of_holds {row : AuditRow} {entry : AuditEntry} (holds : row.Holds entry)
    (readable : Json.read? entry.payload.compact = some entry.payload) : decode? row = some entry := by
  rw [decode?, holds.payload, readable, holds.id, holds.kind, holds.createdAt]
  rfl

theorem mapM_decode? {rows : List AuditRow} (holds : List.Forall₂ AuditRow.Holds rows calls)
    (readable : ∀ call ∈ calls, Json.read? call.payload.compact = some call.payload) :
    rows.mapM decode? = some calls := by
  induction holds with
  | nil => rfl
  | cons first _ ih =>
    obtain ⟨head, rest⟩ := List.forall_mem_cons.mp readable
    rw [List.mapM_cons, decode?_of_holds first head, ih rest]
    rfl

/-- The latest records of a kind are those that a list has of them, up to the limit. -/
theorem Keeps.recent (keeps : table.Keeps calls) (clock : calls.Pairwise (·.createdAt ≤ ·.createdAt))
    (readable : ∀ call ∈ calls, Json.read? call.payload.compact = some call.payload) (kind : String) {limit : Nat}
    (range : limit < Nat.pow 2 64) :
    table.recent kind limit = some (((AuditList.ofCalls calls).latest kind).take limit) := by
  have length : table.rows.length = calls.length := keeps.rows.length_eq
  have few : (table.rows.filter (·.kind = kind)).reverse.length < numberBound := by
    rw [List.length_reverse]
    exact Nat.lt_of_le_of_lt (List.length_filter_le ..) (length ▸ keeps.storable.room)
  have ofKind : List.Forall₂ AuditRow.Holds (table.rows.filter (·.kind = kind)) (calls.filter (·.kind = kind)) :=
    List.rel_filter (fun _ _ holds => by simp only [holds.kind]) keeps.rows
  rw [AuditTable.recent, mergeSort_newer ((keeps.order clock).filter _), limited_signedLimit few range,
    AuditList.latest, AuditList.entries_ofCalls]
  refine mapM_decode? (List.forall₂_take limit (List.rel_reverse ofKind)) fun call member => readable call ?_
  exact List.mem_of_mem_filter (List.mem_reverse.mp (List.mem_of_mem_take member))

end AuditTable

/-- A list of records that took some calls, and a table that took others. They agree on what the callers gave. -/
structure AuditStoresAgree (listed tabled : List AuditEntry) : Prop where
  entries : (AuditList.ofCalls listed).entries = listed
  /-- No call changes or drops an earlier entry. -/
  entriesStay : ∀ earlier later, listed = earlier ++ later →
    (AuditList.ofCalls earlier).entries <+: (AuditList.ofCalls listed).entries
  /-- The table takes the calls, unless an identity occurs twice or there are more of them than row numbers. -/
  stored : (AuditTable.ofCalls? tabled).isSome ↔
    (tabled.map (·.id)).Nodup ∧ tabled.length < AuditTable.numberBound
  /-- No call changes or drops an earlier row. -/
  rowsStay : ∀ earlier later table, tabled = earlier ++ later → AuditTable.ofCalls? tabled = some table →
    ∃ before, AuditTable.ofCalls? earlier = some before ∧ before.rows <+: table.rows
  /-- The records are the latest ones of the table's own, and what the callers gave of them is what the list has. -/
  recent : ∀ table, AuditTable.ofCalls? tabled = some table → ∀ kind limit, limit < Nat.pow 2 64 →
    ∃ found, table.recent kind limit = some found ∧ found <+: (AuditList.ofCalls tabled).latest kind ∧
      found.map (·.content) = (((AuditList.ofCalls listed).latest kind).take
        (min limit ((AuditList.ofCalls listed).latest kind).length)).map (·.content)

/-- The list and the table of records agree. A call that stores a record is given by that record: its kind and its
payload come from the caller, its identity and its moment from the store that is called. -/
theorem audit_stores_agree (listed tabled : List AuditEntry)
    (same : listed.map (·.content) = tabled.map (·.content))
    (clock : tabled.Pairwise (·.createdAt ≤ ·.createdAt))
    (readable : ∀ call ∈ tabled, Json.read? call.payload.compact = some call.payload) :
    AuditStoresAgree listed tabled where
  entries := AuditList.entries_ofCalls listed
  entriesStay earlier later all := by
    rw [AuditList.entries_ofCalls, AuditList.entries_ofCalls, all]
    exact List.prefix_append ..
  stored := by
    constructor
    · intro isSome
      obtain ⟨table, stored⟩ := Option.isSome_iff_exists.mp isSome
      have storable := AuditTable.storable_of_ofCalls? stored
      exact ⟨storable.ids, storable.room⟩
    · rintro ⟨ids, room⟩
      obtain ⟨table, stored, -⟩ := AuditTable.keeps_ofCalls? ⟨ids, room⟩
      exact Option.isSome_iff_exists.mpr ⟨table, stored⟩
  rowsStay earlier later table all stored := AuditTable.rows_prefix_of_append (all ▸ stored)
  recent table stored kind limit range := by
    have latest : ((AuditList.ofCalls tabled).latest kind).map (·.content) =
        ((AuditList.ofCalls listed).latest kind).map (·.content) := by
      apply AuditList.content_latest
      rw [AuditList.entries_ofCalls, AuditList.entries_ofCalls, same]
    refine ⟨_, (AuditTable.Keeps.of_ofCalls? stored).recent clock readable kind range, List.take_prefix .., ?_⟩
    rw [List.map_take, latest, ← List.map_take, List.take_eq_take_min]

/-- Calls on a list, whose clock went backwards once. -/
def listedCalls : List AuditEntry :=
  [⟨0, "pattern_run", .string "a", 5⟩, ⟨1, "pattern_run", .string "b", 6⟩, ⟨2, "other", .object [], 6⟩,
    ⟨3, "pattern_run", .string "a", 4⟩]

/-- The same calls on a table, three of them in the same millisecond. -/
def tabledCalls : List AuditEntry :=
  [⟨7, "pattern_run", .string "a", 5⟩, ⟨4, "pattern_run", .string "b", 5⟩, ⟨9, "other", .object [], 5⟩,
    ⟨8, "pattern_run", .string "a", 8⟩]

theorem audit_stores_agree_same_moment :
    listedCalls.map (·.content) = tabledCalls.map (·.content) ∧
      tabledCalls.Pairwise (·.createdAt ≤ ·.createdAt) ∧
      (∀ call ∈ tabledCalls, Json.read? call.payload.compact = some call.payload) ∧
      AuditStoresAgree listedCalls tabledCalls ∧ (AuditTable.ofCalls? tabledCalls).isSome := by
  have clock : tabledCalls.Pairwise (·.createdAt ≤ ·.createdAt) := by decide
  have readable : ∀ call ∈ tabledCalls, Json.read? call.payload.compact = some call.payload := by
    have a : Json.read? (Json.string "a").compact = some (.string "a") := rfl
    have b : Json.read? (Json.string "b").compact = some (.string "b") := rfl
    have empty : Json.read? (Json.object []).compact = some (.object []) := rfl
    simp only [tabledCalls, List.forall_mem_cons, a, b, empty, List.not_mem_nil, IsEmpty.forall_iff, implies_true,
      and_true]
  have agree := audit_stores_agree listedCalls tabledCalls rfl clock readable
  exact ⟨rfl, clock, readable, agree, agree.stored.mpr ⟨by decide, by decide⟩⟩

end Orchestra
