import Audience.Proofs.Mapping.Standing
import Mathlib.Data.List.Induction
import Mathlib.Data.List.Nodup

set_option autoImplicit false

/-! # Stores in memory and in databases

A store in memory and a store in a database are interchangeable: after the same insertions both answer as the
list `kept` does, which holds one record for each key, in the order in which the keys first came, with
the standard value that came last (`Store.answers_insertAll`). A table keeps these records in the order of
the numbers of its rows, whatever order the rows themselves have (`Table.Lists`). So either store is a list of
records (`Store.Lists`), and a record about a new spelling comes last in it (`Store.Lists.allFor_insert`). -/

namespace Audience.Mapping

/-! ## Keys -/

/-- What a record is about. -/
def Record.key (r : Record) : String × String :=
  (r.category, r.input)

theorem Record.mk_key (r : Record) : Record.mk r.key.1 r.key.2 r.standard = r :=
  rfl

theorem Record.folded_standard (r : Record) : r.folded.standard = r.standard := by
  simp only [Record.folded]

theorem Record.sameKey_iff {r s : Record} : r.sameKey s = true ↔ r.key = s.key := by
  simp [Record.sameKey, Record.key]

/-- A record with the standard value of a new one, if that is about the same spelling. -/
def Record.renewed (r s : Record) : Record :=
  if s.sameKey r then { s with standard := r.standard } else s

theorem Record.key_renewed (r s : Record) : (r.renewed s).key = s.key := by
  rw [Record.renewed]
  split <;> rfl

theorem Record.renewed_of_ne {r s : Record} (h : s.key ≠ r.key) : r.renewed s = s :=
  if_neg fun hsame => h (Record.sameKey_iff.mp hsame)

/-- A record takes the place of the one with its key, or stands at the end. -/
theorem insert_eq_ite {r : Record} {records : List Record} (h : (records.map Record.key).Nodup) :
    insert r records =
      if r.key ∈ records.map Record.key then records.map r.renewed else records ++ [r] := by
  induction records with
  | nil => rfl
  | cons s rest ih =>
      rw [List.map_cons, List.nodup_cons] at h
      by_cases hsame : s.key = r.key
      · -- No other record has the key, so the rest stays as it is.
        have hrest : rest.map r.renewed = rest := by
          refine (List.map_congr_left fun t ht => Record.renewed_of_ne fun heq => ?_).trans
            (List.map_id rest)
          exact h.1 (hsame.trans heq.symm ▸ List.mem_map_of_mem ht)
        rw [insert, if_pos (Record.sameKey_iff.mpr hsame), if_pos (by simp [hsame]), List.map_cons,
          hrest, Record.renewed, if_pos (Record.sameKey_iff.mpr hsame)]
      · have hmem : r.key ∈ (s :: rest).map Record.key ↔ r.key ∈ rest.map Record.key := by
          rw [List.map_cons, List.mem_cons, or_iff_right (Ne.symm hsame)]
        rw [insert, if_neg (fun hs => hsame (Record.sameKey_iff.mp hs)), ih h.2]
        simp only [hmem]
        split
        · rw [List.map_cons, Record.renewed_of_ne hsame]
        · rfl

theorem nodup_insert {r : Record} {records : List Record} (h : (records.map Record.key).Nodup) :
    ((insert r records).map Record.key).Nodup := by
  rw [insert_eq_ite h]
  split
  · rw [List.map_map]
    exact (List.map_congr_left fun s _ => r.key_renewed s) ▸ h
  · next hnew =>
    rw [List.map_append]
    exact List.nodup_append_comm.mp (List.nodup_cons.mpr ⟨hnew, h⟩)

theorem find?_cons (category input : String) (s : Record) (rest : List Record) :
    find? category input (s :: rest) =
      if s.key = (category, input) then some s.standard else find? category input rest := by
  by_cases h : s.key = (category, input)
  · simp_all [find?, Record.key]
  · rw [if_neg h, find?, find?, List.find?_cons_of_neg]
    simpa [Record.key] using h

/-- The standard value of a key is the one that was put in last. -/
theorem find?_insert (category input : String) (r : Record) (records : List Record) :
    find? category input (insert r records) =
      if r.key = (category, input) then some r.standard else find? category input records := by
  induction records with
  | nil => exact find?_cons category input r []
  | cons s rest ih =>
      by_cases hsame : s.sameKey r = true
      · have hkey : s.key = r.key := Record.sameKey_iff.mp hsame
        rw [insert, if_pos hsame, find?_cons, find?_cons]
        show (if s.key = _ then _ else _) = _
        rw [hkey]
        split <;> rfl
      · have hkey : s.key ≠ r.key := fun h => hsame (Record.sameKey_iff.mpr h)
        rw [insert, if_neg hsame, find?_cons, find?_cons, ih]
        by_cases hs : s.key = (category, input)
        · rw [if_pos hs, if_pos hs, if_neg fun hr => hkey (hs.trans hr.symm)]
        · rw [if_neg hs, if_neg hs]

/-! ## The records that are kept -/

/-- The keys of records, in the order in which they first come. -/
def firstKeys (records : List Record) : List (String × String) :=
  (records.map fun r => r.folded.key).eraseDups

/-- The standard value of the last record with a key. -/
def lastStandard? (key : String × String) (records : List Record) : Option String :=
  (records.reverse.find? fun r => r.folded.key == key).map Record.standard

/-- One record for each key, with the standard value that came last. -/
def kept (records : List Record) : List Record :=
  (firstKeys records).filterMap fun key =>
    (lastStandard? key records).map fun standard => ⟨key.1, key.2, standard⟩

theorem eraseDups_concat {α : Type} [BEq α] [LawfulBEq α] [DecidableEq α] (xs : List α) (x : α) :
    (xs ++ [x]).eraseDups = if x ∈ xs then xs.eraseDups else xs.eraseDups ++ [x] := by
  rw [List.eraseDups_append, List.removeAll]
  by_cases h : x ∈ xs
  · rw [if_pos h, List.filter_cons_of_neg (by simpa using h)]
    simp
  · rw [if_neg h, List.filter_cons_of_pos (by simpa using h)]
    simp [List.eraseDups_cons]

theorem firstKeys_concat (records : List Record) (r : Record) :
    firstKeys (records ++ [r]) =
      if r.folded.key ∈ firstKeys records then firstKeys records
      else firstKeys records ++ [r.folded.key] := by
  rw [firstKeys, List.map_append, List.map_singleton, eraseDups_concat, firstKeys]
  simp only [List.mem_eraseDups]

theorem nodup_firstKeys (records : List Record) : (firstKeys records).Nodup := by
  induction records using List.reverseRecOn with
  | nil => exact List.nodup_nil
  | append_singleton records r ih =>
      rw [firstKeys_concat]
      split
      · exact ih
      · next h => exact List.nodup_append_comm.mp (List.nodup_cons.mpr ⟨h, ih⟩)

theorem lastStandard?_concat (key : String × String) (records : List Record) (r : Record) :
    lastStandard? key (records ++ [r]) =
      if r.folded.key = key then some r.standard else lastStandard? key records := by
  rw [lastStandard?, List.reverse_concat]
  by_cases h : r.folded.key = key
  · rw [if_pos h, List.find?_cons_of_pos (by simpa using h)]
    rfl
  · rw [if_neg h, List.find?_cons_of_neg (by simpa using h)]
    rfl

theorem exists_lastStandard? {key : String × String} {records : List Record}
    (h : key ∈ firstKeys records) : ∃ standard, lastStandard? key records = some standard := by
  obtain ⟨r, hr, rfl⟩ := List.mem_map.mp (List.mem_eraseDups.mp h)
  cases hlast : lastStandard? r.folded.key records with
  | some standard => exact ⟨standard, rfl⟩
  | none =>
      have hnone := List.find?_eq_none.mp (Option.map_eq_none_iff.mp hlast) r (List.mem_reverse.mpr hr)
      simp at hnone

/-- Every key has its record. -/
theorem map_key_kept (records : List Record) : (kept records).map Record.key = firstKeys records := by
  rw [kept, List.map_filterMap]
  refine (List.filterMap_congr fun key hkey => ?_).trans List.filterMap_some
  obtain ⟨standard, hstandard⟩ := exists_lastStandard? hkey
  rw [hstandard]
  rfl

/-- One more record takes the place of the one with its key, or stands at the end. -/
theorem kept_concat (records : List Record) (r : Record) :
    kept (records ++ [r]) = insert r.folded (kept records) := by
  rw [insert_eq_ite (by rw [map_key_kept]; exact nodup_firstKeys records), map_key_kept, kept,
    firstKeys_concat]
  have hlast : ∀ key, lastStandard? key (records ++ [r]) =
      if r.folded.key = key then some r.standard else lastStandard? key records :=
    fun key => lastStandard?_concat key records r
  split
  · -- The key came before: it keeps its place, and only the standard value changes.
    rw [kept, List.map_filterMap]
    refine List.filterMap_congr fun key hkey => ?_
    obtain ⟨standard, hstandard⟩ := exists_lastStandard? hkey
    rw [hlast, hstandard]
    by_cases heq : r.folded.key = key
    · have hsame : (Record.mk key.1 key.2 standard).key = r.folded.key := heq.symm
      rw [if_pos heq, Option.map_some, Option.map_some, Option.map_some, Record.renewed,
        if_pos (Record.sameKey_iff.mpr hsame), Record.folded_standard]
    · have hother : (Record.mk key.1 key.2 standard).key ≠ r.folded.key := Ne.symm heq
      rw [if_neg heq, Option.map_some, Option.map_some, Record.renewed_of_ne hother]
  · next hnew =>
    -- The key is new: its record stands last, and the others stay as they are.
    have hold : ∀ key ∈ firstKeys records, r.folded.key ≠ key := fun key hkey heq => hnew (heq ▸ hkey)
    rw [List.filterMap_append, kept]
    congr 1
    · refine List.filterMap_congr fun key hkey => ?_
      rw [hlast, if_neg (hold key hkey)]
    · have hrecord : (lastStandard? r.folded.key (records ++ [r])).map
          (fun standard => Record.mk r.folded.key.1 r.folded.key.2 standard) = some r.folded := by
        rw [hlast, if_pos rfl, Option.map_some, ← r.folded_standard, Record.mk_key]
      simp only [List.filterMap_cons, hrecord, List.filterMap_nil]

/-- Put in one after the other, records leave those that are kept. -/
theorem foldl_insert_eq_kept (records : List Record) :
    records.foldl (fun rs r => insert r.folded rs) [] = kept records := by
  induction records using List.reverseRecOn with
  | nil => rfl
  | append_singleton records r ih => rw [List.foldl_concat, ih, kept_concat]

theorem find?_kept (category input : String) (records : List Record) :
    find? category input (kept records) = lastStandard? (category, input) records := by
  induction records using List.reverseRecOn with
  | nil => simp [kept, firstKeys, find?, lastStandard?]
  | append_singleton records r ih =>
      rw [kept_concat, find?_insert, lastStandard?_concat, ih, Record.folded_standard]

/-! ## Tables -/

theorem find?_eq_some_iff_of_unique {α : Type} {p : α → Bool} {xs : List α}
    (hunique : ∀ x ∈ xs, ∀ y ∈ xs, p x = true → p y = true → x = y) {x : α} :
    xs.find? p = some x ↔ x ∈ xs ∧ p x = true := by
  constructor
  · intro h
    exact ⟨List.mem_of_find?_eq_some h, List.find?_some h⟩
  · rintro ⟨hx, hp⟩
    cases hfind : xs.find? p with
    | none => exact absurd hp (List.find?_eq_none.mp hfind x hx)
    | some y =>
        rw [hunique y (List.mem_of_find?_eq_some hfind) x hx (List.find?_some hfind) hp]

/-- A table keeps records in the order of the numbers of its rows. -/
structure Table.Lists (t : Table) (records : List Record) : Prop where
  listed : ∃ rows : List Row, rows.Perm t.rows ∧ rows.Pairwise (·.id < ·.id) ∧
    rows.map Row.record = records
  fresh : ∀ row ∈ t.rows, row.id < t.next
  distinct : (records.map Record.key).Nodup

namespace Table

theorem lists_empty : Table.empty.Lists [] where
  listed := ⟨[], .refl _, .nil, rfl⟩
  fresh := by simp [Table.empty]
  distinct := List.nodup_nil

/-- An upsert puts a record into the table as it is put into a list. -/
theorem Lists.upsert {t : Table} {records : List Record} (h : t.Lists records) (r : Record) :
    (t.upsert r).Lists (insert r records) := by
  obtain ⟨⟨rows, hperm, hsorted, hrecords⟩, hfresh, hdistinct⟩ := h
  have hany : t.rows.any (·.record.sameKey r) = true ↔ r.key ∈ records.map Record.key := by
    rw [← hrecords, List.map_map, ((hperm.map _).mem_iff (a := r.key)), List.any_eq_true, List.mem_map]
    simp only [Record.sameKey_iff, Function.comp_apply]
  rw [Table.upsert]
  by_cases hkey : r.key ∈ records.map Record.key
  · -- The row with the key keeps its number, and so its place.
    have hmap : (fun row : Row => if row.record.sameKey r then
        { row with record := { row.record with standard := r.standard } } else row)
          = fun row => { row with record := r.renewed row.record } := by
      funext row
      rw [Record.renewed]
      split <;> rfl
    rw [if_pos (hany.mpr hkey), hmap]
    refine ⟨⟨_, hperm.map _, ?sorted, ?records⟩, ?fresh, nodup_insert hdistinct⟩
    case sorted => exact List.pairwise_map.mpr hsorted
    case records =>
      rw [insert_eq_ite hdistinct, if_pos hkey, ← hrecords, List.map_map, List.map_map]
      rfl
    case fresh =>
      intro row hrow
      obtain ⟨old, hold, rfl⟩ := List.mem_map.mp hrow
      exact hfresh old hold
  · -- A new row has a higher number than any other, and so the last place.
    rw [if_neg (mt hany.mp hkey)]
    refine ⟨⟨rows ++ [⟨t.next, r⟩], ?perm, ?sorted, ?records⟩, ?fresh, nodup_insert hdistinct⟩
    case perm => exact (List.perm_append_singleton _ _).trans (hperm.cons _)
    case sorted =>
      refine List.pairwise_append.mpr
        ⟨hsorted, List.pairwise_singleton _ _, fun row hrow new hnew => ?_⟩
      rw [List.mem_singleton.mp hnew]
      exact hfresh row (hperm.mem_iff.mp hrow)
    case records => rw [insert_eq_ite hdistinct, if_neg hkey, List.map_append, hrecords]; rfl
    case fresh =>
      intro row hrow
      rcases List.mem_cons.mp hrow with rfl | hold
      · exact Nat.lt_succ_self t.next
      · exact Nat.lt_succ_of_lt (hfresh row hold)

theorem Lists.upsertAll {t : Table} {records : List Record} (h : t.Lists records)
    (more : List Record) :
    (t.upsertAll more).Lists (more.foldl (fun rs r => insert r.folded rs) records) := by
  induction more generalizing t records with
  | nil => exact h
  | cons r rest ih => exact ih (h.upsert r.folded)

/-- The standard value of a key is found, in whatever order the rows are gone through. -/
theorem Lists.exact_eq {t : Table} {records : List Record} (h : t.Lists records)
    (category input : String) : t.exact category input = find? category input records := by
  obtain ⟨⟨rows, hperm, -, rfl⟩, -, hdistinct⟩ := h
  have hunique : ∀ x ∈ rows, ∀ y ∈ rows,
      (x.record.category == category && x.record.input == input) = true →
      (y.record.category == category && y.record.input == input) = true → x = y := by
    intro x hx y hy hpx hpy
    rw [List.map_map] at hdistinct
    refine List.inj_on_of_nodup_map hdistinct hx hy ?_
    simp only [Bool.and_eq_true, beq_iff_eq] at hpx hpy
    simp [Record.key, hpx, hpy]
  have hfind : t.rows.find? (fun row => row.record.category == category && row.record.input == input)
      = rows.find? (fun row => row.record.category == category && row.record.input == input) := by
    apply Option.ext
    intro row
    rw [find?_eq_some_iff_of_unique hunique, find?_eq_some_iff_of_unique fun x hx y hy =>
      hunique x (hperm.mem_iff.mpr hx) y (hperm.mem_iff.mpr hy), hperm.mem_iff]
  rw [Table.exact, hfind, find?, List.find?_map, Option.map_map]
  rfl

/-- The records of a category are listed as they are kept. -/
theorem Lists.allFor_eq {t : Table} {records : List Record} (h : t.Lists records)
    (category : String) : t.allFor category = ofCategory category records := by
  obtain ⟨⟨rows, hperm, hsorted, rfl⟩, -, -⟩ := h
  have hlist : ((t.rows.filter (·.record.category == category)).mergeSort fun a b => a.id ≤ b.id)
      = rows.filter (·.record.category == category) := by
    have hnumbers : (rows.filter (·.record.category == category)).Pairwise (·.id < ·.id) :=
      hsorted.filter _
    have hsame : ((t.rows.filter (·.record.category == category)).mergeSort
        fun a b => a.id ≤ b.id).Perm (rows.filter (·.record.category == category)) :=
      (List.mergeSort_perm _ _).trans (hperm.filter _).symm
    have hmerged : ((t.rows.filter (·.record.category == category)).mergeSort
        fun a b => a.id ≤ b.id).Pairwise fun a b => decide (a.id ≤ b.id) = true := by
      refine List.pairwise_mergeSort (fun a b c hab hbc => ?_) (fun a b => ?_) _
      · exact decide_eq_true (Nat.le_trans (of_decide_eq_true hab) (of_decide_eq_true hbc))
      · simpa using Nat.le_total a.id b.id
    have hids : ((rows.filter (·.record.category == category)).map Row.id).Nodup :=
      List.pairwise_map.mpr (hnumbers.imp Nat.ne_of_lt)
    refine hsame.eq_of_pairwise (fun a b ha hb hab hba => ?_) hmerged
      (hnumbers.imp fun hlt => decide_eq_true (Nat.le_of_lt hlt))
    -- No two rows have one number, so there is only one way to sort them.
    exact List.inj_on_of_nodup_map hids (hsame.mem_iff.mp ha) hb
      (Nat.le_antisymm (of_decide_eq_true hab) (of_decide_eq_true hba))
  rw [Table.allFor, hlist, ofCategory, List.filter_map]
  rfl

theorem Lists.count_eq {t : Table} {records : List Record} (h : t.Lists records) :
    t.count = records.length := by
  obtain ⟨⟨rows, hperm, -, rfl⟩, -, -⟩ := h
  rw [Table.count, List.length_map, hperm.length_eq]

end Table

/-! ## Stores -/

/-- A store answers as the records that are kept of insertions do. -/
structure Store.Answers (s : Store) (inserted : List Record) : Prop where
  exact : ∀ category input,
    s.exact category input = .ok (lastStandard? (category, input) inserted)
  allFor : ∀ category, s.allFor category = .ok (ofCategory category (kept inserted))
  hasStandard : ∀ category value, s.hasStandard category value
    = .ok ((ofCategory category (kept inserted)).any (·.standard == value))
  size : s.size = (firstKeys inserted).length

namespace Store

/-- A store in a new database. -/
def emptyDatabase : Store :=
  ⟨.database .empty, none, none⟩

theorem insertAll_memory (inserted : List Record) (exactOutage listOutage : Option Outage)
    (records : List Record) :
    insertAll inserted ⟨.memory records, exactOutage, listOutage⟩ =
      ⟨.memory (inserted.foldl (fun rs r => Mapping.insert r.folded rs) records), exactOutage,
        listOutage⟩ := by
  induction inserted generalizing records with
  | nil => rfl
  | cons r rest ih => exact ih (Mapping.insert r.folded records)

theorem insertAll_database (inserted : List Record) (exactOutage listOutage : Option Outage)
    (table : Table) :
    insertAll inserted ⟨.database table, exactOutage, listOutage⟩ =
      ⟨.database (table.upsertAll inserted), exactOutage, listOutage⟩ := by
  induction inserted generalizing table with
  | nil => rfl
  | cons r rest ih => exact ih (table.upsert r.folded)

/-- What a store without outages says follows from the records that it finds and lists. -/
theorem answers_of_kept {s : Store} {inserted : List Record} (hexact : s.exactOutage = none)
    (hlist : s.listOutage = none)
    (hmapped : ∀ category input, s.mapped? category input = find? category input (kept inserted))
    (hrecords : ∀ category, s.recordsOf category = ofCategory category (kept inserted))
    (hsize : s.size = (kept inserted).length) : s.Answers inserted where
  exact category input := by
    rw [exact_eq, hexact, hmapped, find?_kept]
    rfl
  allFor category := by
    rw [allFor_eq, hlist, hrecords]
    rfl
  hasStandard category value := by
    rw [hasStandard_eq, hlist, hrecords]
    rfl
  size := by rw [hsize, ← map_key_kept, List.length_map]

/-- **A store in memory and a store in a database are interchangeable.** After any insertions, in this order
into both, each of them answers as the records that are kept of these insertions do. -/
theorem answers_insertAll (inserted : List Record) :
    (insertAll inserted .empty).Answers inserted ∧
      (insertAll inserted .emptyDatabase).Answers inserted := by
  constructor
  · rw [empty, insertAll_memory, foldl_insert_eq_kept]
    exact answers_of_kept rfl rfl (fun _ _ => rfl) (fun _ => rfl) rfl
  · have hlists : (Table.empty.upsertAll inserted).Lists (kept inserted) := by
      have hrun := Table.lists_empty.upsertAll inserted
      rwa [foldl_insert_eq_kept] at hrun
    rw [emptyDatabase, insertAll_database]
    exact answers_of_kept rfl rfl hlists.exact_eq hlists.allFor_eq hlists.count_eq

end Store

/-! ## Stores as lists of records -/

namespace Store

/-- A store that keeps records in an order, each about a spelling of its own. -/
def Lists (s : Store) (records : List Record) : Prop :=
  match s.backing with
  | .memory found => found = records ∧ (records.map Record.key).Nodup
  | .database table => table.Lists records

section Lists

variable {s : Store} {records : List Record}

theorem Lists.nodup (h : s.Lists records) : (records.map Record.key).Nodup := by
  obtain ⟨backing, exactOutage, listOutage⟩ := s
  cases backing with
  | memory found => exact h.2
  | database table => exact Table.Lists.distinct h

theorem Lists.mapped?_eq (h : s.Lists records) (category key : String) :
    s.mapped? category key = find? category key records := by
  obtain ⟨backing, exactOutage, listOutage⟩ := s
  cases backing with
  | memory found => exact congrArg (find? category key) h.1
  | database table => exact Table.Lists.exact_eq h category key

theorem Lists.recordsOf_eq (h : s.Lists records) (category : String) :
    s.recordsOf category = ofCategory category records := by
  obtain ⟨backing, exactOutage, listOutage⟩ := s
  cases backing with
  | memory found => exact congrArg (ofCategory category) h.1
  | database table => exact Table.Lists.allFor_eq h category

/-- A record is put into a store as it is put into a list. -/
theorem Lists.insert (h : s.Lists records) (x : Record) :
    (s.insert x).Lists (Mapping.insert x.folded records) := by
  obtain ⟨backing, exactOutage, listOutage⟩ := s
  cases backing with
  | memory found =>
      obtain ⟨rfl, hnodup⟩ := h
      exact ⟨rfl, nodup_insert hnodup⟩
  | database table => exact Table.Lists.upsert h x.folded

theorem Lists.insertAll (h : s.Lists records) (inserted : List Record) :
    (insertAll inserted s).Lists (inserted.foldl (fun rs r => Mapping.insert r.folded rs) records) := by
  induction inserted generalizing s records with
  | nil => exact h
  | cons r rest ih => exact ih (h.insert r)

/-- Whatever is put into an empty store, it keeps the records that are kept of these insertions. -/
theorem lists_insertAll (inserted : List Record) :
    (Store.insertAll inserted .empty).Lists (kept inserted) ∧
      (Store.insertAll inserted .emptyDatabase).Lists (kept inserted) := by
  have hmemory : empty.Lists [] := ⟨rfl, List.nodup_nil⟩
  have hdatabase : emptyDatabase.Lists [] := Table.lists_empty
  rw [← foldl_insert_eq_kept]
  exact ⟨hmemory.insertAll inserted, hdatabase.insertAll inserted⟩

theorem answering_eq_ok_iff {α : Type} {outage : Option Outage} {answer found : α} :
    answering outage answer = .ok found ↔ outage = none ∧ answer = found := by
  cases outage <;> simp [answering]

theorem exactOutage_insert (s : Store) (x : Record) : (s.insert x).exactOutage = s.exactOutage := by
  unfold insert
  split <;> rfl

theorem listOutage_insert (s : Store) (x : Record) : (s.insert x).listOutage = s.listOutage := by
  unfold insert
  split <;> rfl

/-- Exact records of other spellings stay what they are. -/
theorem Lists.exact_insert (h : s.Lists records) {x : Record} {category key : String}
    (hother : x.folded.key ≠ (category, key)) :
    (s.insert x).exact category key = s.exact category key := by
  rw [exact_eq, exact_eq, exactOutage_insert, (h.insert x).mapped?_eq, h.mapped?_eq, find?_insert,
    if_neg hother]

/-- A record about a new spelling stands behind the others of its category. -/
theorem Lists.allFor_insert (h : s.Lists records) {x : Record} {category : String} {found : List Record}
    (hnew : x.folded.key ∉ records.map Record.key) (hlist : s.allFor category = .ok found) :
    (s.insert x).allFor category = .ok (found ++ ofCategory category [x.folded]) := by
  obtain ⟨houtage, rfl⟩ := answering_eq_ok_iff.1 ((allFor_eq category s).symm.trans hlist)
  rw [allFor_eq, listOutage_insert, houtage, (h.insert x).recordsOf_eq, h.recordsOf_eq,
    insert_eq_ite h.nodup, if_neg hnew, ofCategory, List.filter_append]
  rfl

end Lists

end Store

end Audience.Mapping
