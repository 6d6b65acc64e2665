import Mathlib.Data.List.Forall2
import Mathlib.Data.List.Induction

/-!
# Entries under keys

A value that is put under a key takes the place of the value that was there before, and
stands at the end if there was none.  Putting entries one after another therefore keeps
the keys in the order in which they first turn up, and under each key the value that was
put there last.
-/

namespace GraphQL
namespace Keyed

variable {κ α β : Type} [DecidableEq κ]

/-- Entries with a value put under a key. -/
def put (key : κ) (value : α) : List (κ × α) → List (κ × α)
  | [] => [(key, value)]
  | entry :: entries =>
    if entry.1 = key then (entry.1, value) :: entries else entry :: put key value entries

/-- Entries put one after another. -/
def merge (entries : List (κ × α)) : List (κ × α) :=
  entries.foldl (fun merged entry => put entry.1 entry.2 merged) []

/-- The value that was put under a key last. -/
def last? (key : κ) (entries : List (κ × α)) : Option α :=
  entries.reverse.lookup key

/-! ## One value -/

theorem lookup_cons (key : κ) (entry : κ × α) (entries : List (κ × α)) :
    (entry :: entries).lookup key =
      if key = entry.1 then some entry.2 else entries.lookup key := by
  obtain ⟨found, value⟩ := entry
  rw [List.lookup_cons]
  by_cases same : key = found
  · rw [if_pos same, beq_iff_eq.mpr same]
  · rw [if_neg same, beq_eq_false_iff_ne.mpr same]

theorem keys_put (key : κ) (value : α) (entries : List (κ × α)) :
    (put key value entries).map (·.1) =
      if key ∈ entries.map (·.1) then entries.map (·.1) else entries.map (·.1) ++ [key] := by
  induction entries with
  | nil => simp [put]
  | cons entry entries inductionHypothesis =>
    rw [put]
    split
    case isTrue same => simp [same]
    case isFalse other =>
      rw [List.map_cons, inductionHypothesis]
      have absent : key ≠ entry.1 := fun same => other same.symm
      split <;> simp_all

/-- Different keys stay different. -/
theorem nodup_keys_put
    {key : κ}
    {value : α}
    {entries : List (κ × α)}
    (distinct : (entries.map (·.1)).Nodup) :
    ((put key value entries).map (·.1)).Nodup := by
  rw [keys_put]
  split
  case isTrue => exact distinct
  case isFalse absent =>
    have isNew : ∀ old ∈ entries.map (·.1), ∀ other ∈ [key], old ≠ other := by
      rintro old present other inNew rfl
      exact absent (List.mem_singleton.mp inNew ▸ present)
    exact List.nodup_append.mpr ⟨distinct, List.pairwise_singleton _ _, isNew⟩

theorem lookup_put (key other : κ) (value : α) (entries : List (κ × α)) :
    (put key value entries).lookup other =
      if other = key then some value else entries.lookup other := by
  induction entries with
  | nil => rw [put, lookup_cons]
  | cons entry entries inductionHypothesis =>
    rw [put]
    split
    case isTrue atEntry =>
      rw [lookup_cons, lookup_cons, atEntry]
      split <;> rfl
    case isFalse notAtEntry =>
      rw [lookup_cons, lookup_cons, inductionHypothesis]
      by_cases found : other = entry.1
      · have notKey : other ≠ key := fun same => notAtEntry (found.symm.trans same)
        rw [if_pos found, if_neg notKey, if_pos found]
      · rw [if_neg found, if_neg found]

theorem map_put (change : α → β) (key : κ) (value : α) (entries : List (κ × α)) :
    (put key value entries).map (fun entry => (entry.1, change entry.2)) =
      put key (change value) (entries.map fun entry => (entry.1, change entry.2)) := by
  induction entries with
  | nil => rfl
  | cons entry entries inductionHypothesis =>
    rw [put, List.map_cons, put]
    split
    case isTrue => rfl
    case isFalse => rw [List.map_cons, inductionHypothesis]

/-- Every entry that there is after a value was put under a key is that value, or was
there before. -/
theorem mem_put
    {key : κ}
    {value : α}
    {entries : List (κ × α)}
    {entry : κ × α}
    (present : entry ∈ put key value entries) :
    entry = (key, value) ∨ entry ∈ entries := by
  induction entries with
  | nil => exact .inl (List.mem_singleton.mp present)
  | cons first entries inductionHypothesis =>
    rw [put] at present
    split at present
    case isTrue same =>
      rcases List.mem_cons.mp present with rfl | inRest
      · exact .inl (by rw [same])
      · exact .inr (List.mem_cons_of_mem _ inRest)
    case isFalse =>
      rcases List.mem_cons.mp present with rfl | inRest
      · exact .inr List.mem_cons_self
      · exact (inductionHypothesis inRest).imp_right (List.mem_cons_of_mem _)

/-- A value under a new key stands at the end. -/
theorem put_of_notMem
    {key : κ}
    {value : α}
    {entries : List (κ × α)}
    (absent : key ∉ entries.map (·.1)) :
    put key value entries = entries ++ [(key, value)] := by
  induction entries with
  | nil => rfl
  | cons entry entries inductionHypothesis =>
    rw [List.map_cons, List.mem_cons, not_or] at absent
    rw [put, if_neg (Ne.symm absent.1), inductionHypothesis absent.2, List.cons_append]

/-! ## Values one after another -/

theorem merge_append_singleton (entries : List (κ × α)) (entry : κ × α) :
    merge (entries ++ [entry]) = put entry.1 entry.2 (merge entries) := by
  simp [merge]

theorem keys_merge (entries : List (κ × α)) :
    (merge entries).map (·.1) = (entries.map (·.1)).eraseDups := by
  induction entries using List.reverseRecOn with
  | nil => rfl
  | append_singleton entries entry inductionHypothesis =>
    rw [merge_append_singleton, keys_put, inductionHypothesis, List.map_append,
      List.eraseDups_append, List.map_singleton]
    by_cases present : entry.1 ∈ entries.map (·.1)
    · rw [if_pos (List.mem_eraseDups.mpr present)]
      simp [List.removeAll, present]
    · rw [if_neg fun among => present (List.mem_eraseDups.mp among)]
      simp [List.removeAll, present, List.eraseDups_cons]

/-- No key turns up twice. -/
theorem nodup_keys_merge (entries : List (κ × α)) : ((merge entries).map (·.1)).Nodup := by
  induction entries using List.reverseRecOn with
  | nil => exact List.nodup_nil
  | append_singleton entries entry inductionHypothesis =>
    rw [merge_append_singleton]
    exact nodup_keys_put inductionHypothesis

/-- Entries whose keys are different stay as they are. -/
theorem merge_of_nodup
    {entries : List (κ × α)}
    (distinct : (entries.map (·.1)).Nodup) :
    merge entries = entries := by
  induction entries using List.reverseRecOn with
  | nil => rfl
  | append_singleton entries entry inductionHypothesis =>
    rw [List.map_append, List.nodup_append] at distinct
    obtain ⟨distinctBefore, -, apart⟩ := distinct
    rw [merge_append_singleton, inductionHypothesis distinctBefore]
    refine put_of_notMem fun present => ?_
    exact apart entry.1 present entry.1 (by simp) rfl

theorem lookup_merge (key : κ) (entries : List (κ × α)) :
    (merge entries).lookup key = last? key entries := by
  rw [last?]
  induction entries using List.reverseRecOn with
  | nil => rfl
  | append_singleton entries entry inductionHypothesis =>
    rw [merge_append_singleton, lookup_put, inductionHypothesis, List.reverse_append,
      List.reverse_singleton, List.singleton_append, lookup_cons]

theorem map_merge (change : α → β) (entries : List (κ × α)) :
    (merge entries).map (fun entry => (entry.1, change entry.2)) =
      merge (entries.map fun entry => (entry.1, change entry.2)) := by
  induction entries using List.reverseRecOn with
  | nil => rfl
  | append_singleton entries entry inductionHypothesis =>
    rw [merge_append_singleton, map_put, inductionHypothesis, List.map_append,
      List.map_singleton, merge_append_singleton]

theorem mem_of_mem_merge
    {entries : List (κ × α)}
    {entry : κ × α}
    (present : entry ∈ merge entries) :
    entry ∈ entries := by
  induction entries using List.reverseRecOn with
  | nil => exact present
  | append_singleton entries last inductionHypothesis =>
    rw [merge_append_singleton] at present
    rcases mem_put present with rfl | before
    · simp
    · simp [inductionHypothesis before]

/-! ## Entries made from others -/

/-- The value under a key is made from the first thing for that key. -/
theorem lookup_of_forall₂
    {items : List β}
    {entries : List (κ × α)}
    {makes : β → κ × α → Prop}
    {atKey : β → Bool}
    {key : κ}
    {item : β}
    (made : List.Forall₂ makes items entries)
    (sameKey : ∀ item entry, makes item entry → (atKey item = true ↔ entry.1 = key))
    (found : items.find? atKey = some item) :
    ∃ entry, entries.lookup key = some entry.2 ∧ makes item entry := by
  induction made with
  | nil => cases found
  | @cons first entry items entries makesFirst _ inductionHypothesis =>
    by_cases atFirst : atKey first = true
    · obtain rfl : first = item := by simpa [List.find?_cons, atFirst] using found
      have same := (sameKey first entry makesFirst).mp atFirst
      exact ⟨entry, by rw [lookup_cons, if_pos same.symm], makesFirst⟩
    · have other : key ≠ entry.1 :=
        fun same => atFirst ((sameKey first entry makesFirst).mpr same.symm)
      have foundLater : items.find? atKey = some item := by
        simpa [List.find?_cons, atFirst] using found
      obtain ⟨later, foundEntry, makesItem⟩ := inductionHypothesis foundLater
      exact ⟨later, by rw [lookup_cons, if_neg other, foundEntry], makesItem⟩

/-- The value that was put under a key last is made from the last thing for that key. -/
theorem last?_of_forall₂
    {items : List β}
    {entries : List (κ × α)}
    {makes : β → κ × α → Prop}
    {atKey : β → Bool}
    {key : κ}
    {item : β}
    (made : List.Forall₂ makes items entries)
    (sameKey : ∀ item entry, makes item entry → (atKey item = true ↔ entry.1 = key))
    (found : items.reverse.find? atKey = some item) :
    ∃ entry, last? key entries = some entry.2 ∧ makes item entry :=
  lookup_of_forall₂ (List.rel_reverse made) sameKey found

/-- What goes under a key is what a search for the key finds. -/
theorem lookup_eq_find? (key : κ) (entries : List (κ × α)) :
    entries.lookup key = (entries.find? (·.1 = key)).map (·.2) := by
  induction entries with
  | nil => rfl
  | cons entry entries inductionHypothesis =>
    rw [lookup_cons, inductionHypothesis]
    by_cases same : key = entry.1
    · simp [same]
    · simp [same, Ne.symm same]

end Keyed
end GraphQL
