import Mathlib.Data.List.Induction
import Mathlib.Data.List.Nodup
import Mathlib.Order.Basic

/-! # Tables in order of first appearance

A `Table` is a list of distinct keys with a list of their values. An entry replaces the value of its key, or
goes to the end when the key is new. So the keys stand in the order of their first appearance and every value
is the one recorded last. When the entries of each key rise in some rank, the last one is the highest.
-/

namespace Machine

structure Table (κ α : Type*) where
  keys : List κ
  values : List α
  aligned : values.length = keys.length
  nodup : keys.Nodup

namespace Table

variable {κ α β : Type*}

def empty : Table κ α where
  keys := []
  values := []
  aligned := rfl
  nodup := .nil

variable [DecidableEq κ]

def put (table : Table κ α) (key : κ) (value : α) : Table κ α :=
  if known : key ∈ table.keys then
    { table with
      values := table.values.set (table.keys.idxOf key) value
      aligned := (List.length_set ..).trans table.aligned }
  else
    { keys := table.keys ++ [key]
      values := table.values ++ [value]
      aligned := by rw [List.length_append, List.length_append, table.aligned]; rfl
      nodup := List.nodup_append_comm.mp (List.nodup_cons.mpr ⟨known, table.nodup⟩) }

def get? (table : Table κ α) (key : κ) : Option α := table.values[table.keys.idxOf key]?

variable {table : Table κ α} {key : κ} {value : α}

theorem put_of_mem (value : α) (known : key ∈ table.keys) : (table.put key value).keys = table.keys ∧
    (table.put key value).values = table.values.set (table.keys.idxOf key) value := by
  rw [put, dif_pos known]
  exact ⟨rfl, rfl⟩

theorem put_of_notMem (value : α) (fresh : key ∉ table.keys) : (table.put key value).keys = table.keys ++ [key] ∧
    (table.put key value).values = table.values ++ [value] := by
  rw [put, dif_neg fresh]
  exact ⟨rfl, rfl⟩

theorem get?_eq_none (absent : key ∉ table.keys) : table.get? key = none := by
  rw [get?, List.getElem?_eq_none_iff, table.aligned]
  exact Nat.le_of_eq (List.idxOf_eq_length absent).symm

/-- The value at an index is the one found under its key. -/
theorem get?_getElem {index : ℕ} (inside : index < table.keys.length) :
    table.get? table.keys[index] = table.values[index]? := by
  rw [get?, table.nodup.idxOf_getElem index inside]

theorem get?_put (other : κ) :
    (table.put key value).get? other = if other = key then some value else table.get? other := by
  by_cases known : key ∈ table.keys
  · obtain ⟨keys, values⟩ := put_of_mem value known
    have inside : table.keys.idxOf key < table.values.length :=
      table.aligned.symm ▸ List.idxOf_lt_length_of_mem known
    rw [get?, keys, values]
    split
    next same => rw [same, List.getElem?_set_self inside]
    next apart =>
      rw [List.getElem?_set_ne, get?]
      exact fun same => apart (List.idxOf_inj known |>.mp same).symm
  · obtain ⟨keys, values⟩ := put_of_notMem value known
    rw [get?, keys, values]
    split
    next same =>
      rw [same, List.idxOf_append_of_notMem known, ← table.aligned]
      simp
    next apart =>
      by_cases present : other ∈ table.keys
      · have inside : table.keys.idxOf other < table.values.length :=
          table.aligned.symm ▸ List.idxOf_lt_length_of_mem present
        rw [List.idxOf_append_of_mem present, List.getElem?_append_left inside, get?]
      · have absent : other ∉ table.keys ++ [key] := by simp [present, apart]
        rw [List.idxOf_eq_length absent, get?_eq_none present]
        simp [table.aligned]

private theorem eraseDups_snoc (keys : List κ) (key : κ) :
    (keys ++ [key]).eraseDups = if key ∈ keys then keys.eraseDups else keys.eraseDups ++ [key] := by
  rw [List.eraseDups_append, List.removeAll]
  split
  next known => rw [List.filter_cons_of_neg (by simpa using known)]; simp
  next fresh => rw [List.filter_cons_of_pos (by simpa using fresh)]; simp [List.eraseDups_cons]

section Record

variable (key : β → κ) (value : β → α)

/-- Record the entries in their order. -/
def record (table : Table κ α) (entries : List β) : Table κ α :=
  entries.foldl (fun table entry => table.put (key entry) (value entry)) table

theorem record_snoc (entries : List β) (entry : β) : table.record key value (entries ++ [entry]) =
    (table.record key value entries).put (key entry) (value entry) := by
  rw [record, List.foldl_append]
  rfl

theorem keys_record (entries : List β) : (record key value empty entries).keys = (entries.map key).eraseDups := by
  induction entries using List.reverseRecOn with
  | nil => rfl
  | append_singleton earlier entry ih =>
    rw [record_snoc, List.map_append, List.map_singleton, eraseDups_snoc, ← ih]
    have member : key entry ∈ (record key value empty earlier).keys ↔ key entry ∈ earlier.map key := by
      rw [ih, List.mem_eraseDups]
    split
    next known => exact (put_of_mem _ (member.mpr known)).1
    next fresh => exact (put_of_notMem _ (fresh ∘ member.mp)).1

/-- Every key shows its last entry. -/
theorem get?_record (entries : List β) (wanted : κ) : (record key value empty entries).get? wanted =
    (entries.filter (key · = wanted)).getLast?.map value := by
  induction entries using List.reverseRecOn with
  | nil => rfl
  | append_singleton earlier entry ih =>
    rw [record_snoc, get?_put, ih, List.filter_append]
    split
    next same => simp [same]
    next apart => simp [Ne.symm apart]

variable {ρ : Type*} [Preorder ρ] (rank : β → ρ)

/-- When the entries of each key rise, the value at an index comes from the highest entry of its key. -/
theorem record_highest {entries : List β}
    (rising : ∀ wanted, ((entries.filter (key · = wanted)).map rank).Pairwise (· < ·)) {index : ℕ} {wanted : κ}
    (shown : (record key value empty entries).keys[index]? = some wanted) :
    ∃ entry ∈ entries, key entry = wanted ∧ (∀ other ∈ entries, key other = wanted → rank other ≤ rank entry) ∧
      (record key value empty entries).values[index]? = some (value entry) := by
  obtain ⟨inside, here⟩ := List.getElem?_eq_some_iff.mp shown
  have present : wanted ∈ entries.map key := by
    rw [← List.mem_eraseDups, ← keys_record key value, ← here]
    exact List.getElem_mem inside
  obtain ⟨first, member, named⟩ := List.mem_map.mp present
  have some : entries.filter (key · = wanted) ≠ [] :=
    List.ne_nil_of_mem (List.mem_filter.mpr ⟨member, decide_eq_true named⟩)
  obtain ⟨earlier, last, split⟩ := List.eq_nil_or_concat' (entries.filter (key · = wanted)) |>.resolve_left some
  obtain ⟨lastMember, lastNamed⟩ :=
    List.mem_filter.mp (split ▸ List.mem_append_right earlier (List.mem_singleton_self last))
  refine ⟨last, lastMember, of_decide_eq_true lastNamed, ?_, ?_⟩
  · intro other otherMember otherNamed
    have among : other ∈ earlier ++ [last] := split ▸ List.mem_filter.mpr ⟨otherMember, decide_eq_true otherNamed⟩
    have risen := rising wanted
    rw [split, List.map_append, List.pairwise_append] at risen
    rcases List.mem_append.mp among with before | same
    · exact (risen.2.2 _ (List.mem_map_of_mem before) _ (List.mem_singleton_self _)).le
    · rw [List.mem_singleton.mp same]
  · rw [← get?_getElem inside, here, get?_record, split, List.getLast?_concat]
    rfl

end Record

end Table

end Machine
