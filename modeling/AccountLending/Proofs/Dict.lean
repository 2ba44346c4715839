import Mathlib.Data.List.Nodup
import AccountLending.Dict

/-!
# More about dictionaries

Changes of many names at once, each told by what it does to the look-ups.

* `Dict.put` — store a value or forget the name;
* `Dict.filterMap`, `Dict.each` — change every value, or drop it;
* `Dict.changeAmong` — change or drop the values of some names only;
* `NameSet.keep` — the names of a set that pass a test.
-/

namespace AccountLending

namespace Dict

variable {α β : Type}

/-! ## Many names in a row -/

/-- Of two dictionaries stored one over the other, the later one decides. -/
theorem get?_insertAll_entries (d e : Dict α) (name : String) :
    (d.insertAll e.entries).get? name = (e.get? name).or (d.get? name) := by
  obtain ⟨entries, hincreasing⟩ := e
  simp only [insertAll, get?]
  induction entries generalizing d with
  | nil => simp
  | cons entry rest ih =>
    obtain ⟨key, value⟩ := entry
    obtain ⟨hhead, htail⟩ := List.pairwise_cons.1 hincreasing
    have hrest := ih (d.insert key value) htail
    rw [List.foldl_cons, hrest, lookup_cons_eq]
    split
    · rename_i hname
      subst hname
      -- the name cannot occur again, since the entries increase
      have hnone : rest.lookup name = none := by
        rw [List.lookup_eq_none_iff]
        intro other hother
        have hlt := hhead other hother
        have hne : name ≠ other.1 := fun h => String.lt_irrefl _ (h ▸ hlt)
        simp [hne]
      rw [hnone, Option.none_or, Option.some_or]
      exact get?_insert_self d name value
    · rename_i hname
      have hold : List.lookup name (d.insert key value).entries = List.lookup name d.entries :=
        (get?_insert d key value name).trans (if_neg hname)
      rw [hold]

/-- Of several values stored under one name the last one stays. -/
theorem get?_insertAll (d : Dict α) (entries : List (String × α)) (name : String) :
    (d.insertAll entries).get? name = (entries.reverse.lookup name).or (d.get? name) := by
  induction entries generalizing d with
  | nil => rfl
  | cons entry rest ih =>
    obtain ⟨key, value⟩ := entry
    have hrest := ih (d.insert key value)
    rw [get?_insert] at hrest
    rw [List.reverse_cons, List.lookup_append, Option.or_assoc, lookup_cons_eq, List.lookup_nil]
    refine hrest.trans (congrArg _ ?_)
    split <;> rfl

theorem get?_ofList (entries : List (String × α)) (name : String) :
    (ofList entries).get? name = entries.reverse.lookup name := by
  rw [ofList, get?_insertAll, get?_empty, Option.or_none]

@[simp] theorem ofList_entries (d : Dict α) : ofList d.entries = d := by
  apply ext_get?
  intro name
  rw [ofList, get?_insertAll_entries, get?_empty, Option.or_none]

theorem get?_eraseAll (d : Dict α) (names : List String) (name : String) :
    (d.eraseAll names).get? name = if name ∈ names then none else d.get? name := by
  induction names generalizing d with
  | nil => simp [eraseAll]
  | cons first rest ih =>
    have hrest := ih (d.erase first)
    rw [eraseAll, List.foldl_cons] at *
    rw [hrest, get?_erase]
    by_cases hfirst : name = first
    · simp [hfirst]
    · simp [hfirst]

/-! ## One name -/

/-- Store a value under a name, or forget the name. -/
def put (d : Dict α) (name : String) : Option α → Dict α
  | some value => d.insert name value
  | none => d.erase name

theorem get?_put (d : Dict α) (name : String) (value : Option α) (k : String) :
    (d.put name value).get? k = if k = name then value else d.get? k := by
  cases value with
  | some value => exact get?_insert d name value k
  | none => exact get?_erase d name k

@[simp] theorem get?_put_self (d : Dict α) (name : String) (value : Option α) :
    (d.put name value).get? name = value := by
  rw [get?_put, if_pos rfl]

theorem put_get? (d : Dict α) (name : String) : d.put name (d.get? name) = d := by
  apply ext_get?
  intro k
  rw [get?_put]
  split
  · rename_i h
    rw [h]
  · rfl

@[simp] theorem modify_put (d : Dict α) (name : String) (value : α) (f : α → α) :
    (d.put name (some value)).modify name f = d.put name (some (f value)) := by
  apply ext_get?
  intro k
  rw [get?_modify, get?_put, get?_put]
  split <;> rfl

theorem modify_of_get? {d : Dict α} {name : String} {value : α} (h : d.get? name = some value)
    (f : α → α) : d.modify name f = d.put name (some (f value)) := by
  rw [← modify_put, ← h, put_get?]

@[simp] theorem erase_put (d : Dict α) (name : String) (value : Option α) :
    (d.put name value).erase name = d.put name none := by
  apply ext_get?
  intro k
  rw [get?_erase, get?_put, get?_put]
  split <;> rfl

/-! ## Every name -/

/-- Change or drop the value of every name. -/
def filterMap (f : String → α → Option β) (d : Dict α) : Dict β :=
  ⟨d.entries.filterMap fun e => (f e.1 e.2).map (Prod.mk e.1), by
    refine List.Pairwise.filterMap _ (fun a a' h b hb b' hb' => ?_) d.increasing
    obtain ⟨value, -, rfl⟩ := Option.map_eq_some_iff.1 hb
    obtain ⟨value', -, rfl⟩ := Option.map_eq_some_iff.1 hb'
    exact h⟩

theorem get?_filterMap (f : String → α → Option β) (d : Dict α) (name : String) :
    (d.filterMap f).get? name = (d.get? name).bind (f name) := by
  apply Option.ext
  intro value
  rw [← mem_entries_iff, Option.bind_eq_some_iff]
  constructor
  · intro hmem
    obtain ⟨⟨key, old⟩, hold, hvalue⟩ := List.mem_filterMap.1 hmem
    obtain ⟨_, hf, heq⟩ := Option.map_eq_some_iff.1 hvalue
    obtain ⟨rfl, rfl⟩ := Prod.mk.inj heq
    exact ⟨old, (mem_entries_iff d key old).1 hold, hf⟩
  · rintro ⟨old, hold, hf⟩
    refine List.mem_filterMap.2 ⟨(name, old), (mem_entries_iff d name old).2 hold, ?_⟩
    simp [hf]

/-- Change the value of every name. -/
def each (f : String → α → β) (d : Dict α) : Dict β :=
  d.filterMap fun name value => some (f name value)

theorem get?_each (f : String → α → β) (d : Dict α) (name : String) :
    (d.each f).get? name = (d.get? name).map (f name) := by
  rw [each, get?_filterMap]
  cases d.get? name <;> rfl

theorem entries_each (f : String → α → β) (d : Dict α) :
    (d.each f).entries = d.entries.map fun e => (e.1, f e.1 e.2) := by
  simp [each, filterMap]

theorem nodup_keys (d : Dict α) : d.keys.Nodup := by
  refine List.pairwise_map.2 (d.increasing.imp fun {a b} h heq => ?_)
  rw [heq] at h
  exact String.lt_irrefl _ h

/-- Change or drop the values of some names. -/
def changeAmong (f : String → α → Option α) (names : List String) (d : Dict α) : Dict α :=
  d.filterMap fun name value => if names.contains name then f name value else some value

theorem get?_changeAmong (f : String → α → Option α) (names : List String) (d : Dict α)
    (name : String) :
    (d.changeAmong f names).get? name =
      (d.get? name).bind fun value => if names.contains name then f name value else some value :=
  get?_filterMap ..

theorem changeAmong_nil (f : String → α → Option α) (d : Dict α) : d.changeAmong f [] = d := by
  apply ext_get?
  intro name
  rw [get?_changeAmong]
  cases d.get? name <;> rfl

/-- One name more. -/
theorem changeAmong_append (f : String → α → Option α) (names : List String) {d : Dict α}
    {name : String} {value : α} (h : d.get? name = some value) :
    d.changeAmong f (names ++ [name]) = (d.changeAmong f names).put name (f name value) := by
  apply ext_get?
  intro other
  rw [get?_put, get?_changeAmong, get?_changeAmong]
  by_cases heq : other = name
  · simp [heq, h]
  · have hsame : (names ++ [name]).contains other = names.contains other := by simp [heq]
    rw [hsame, if_neg heq]

/-- A name is listed among some of the entries when its own entry is. -/
theorem mem_map_fst_filter {d : Dict α} {name : String} {value : α} (h : d.get? name = some value)
    (p : String × α → Bool) :
    name ∈ (d.entries.filter p).map Prod.fst ↔ p (name, value) = true := by
  constructor
  · intro hmem
    obtain ⟨⟨key, other⟩, hentry, rfl⟩ := List.mem_map.1 hmem
    obtain ⟨hentry, hp⟩ := List.mem_filter.1 hentry
    have hother := (mem_entries_iff d key other).1 hentry
    obtain rfl : value = other := Option.some.inj (h.symm.trans hother)
    exact hp
  · intro hp
    exact List.mem_map.2 ⟨_, List.mem_filter.2 ⟨(mem_entries_iff d name value).2 h, hp⟩, rfl⟩

theorem isEmpty_iff (d : Dict α) : d.isEmpty = true ↔ ∀ name, d.contains name = false := by
  rw [isEmpty, List.isEmpty_iff, List.eq_nil_iff_forall_not_mem]
  constructor
  · intro h name
    rw [contains, Option.isSome_eq_false_iff, Option.isNone_iff_eq_none,
      Option.eq_none_iff_forall_ne_some]
    exact fun value hvalue => h (name, value) ((mem_entries_iff d name value).2 hvalue)
  · rintro h ⟨name, value⟩ hentry
    have hnot := h name
    rw [contains, (mem_entries_iff d name value).1 hentry] at hnot
    exact Bool.false_ne_true hnot.symm

end Dict

namespace NameSet

theorem ext_contains {s t : NameSet} (h : ∀ name, s.contains name = t.contains name) : s = t := by
  apply Dict.ext_get?
  intro name
  have hname := h name
  simp only [Dict.contains] at hname
  cases hs : s.get? name <;> cases ht : t.get? name <;> simp_all

theorem mem_keys_iff (s : NameSet) (name : String) : name ∈ s.keys ↔ s.contains name = true := by
  rw [Dict.mem_keys_iff, Dict.contains, Option.isSome_iff_exists]

theorem contains_erase (s : NameSet) (name k : String) :
    Dict.contains (s.erase name) k = (decide (k ≠ name) && s.contains k) := by
  by_cases h : k = name <;> simp [Dict.contains, Dict.get?_erase, h]

/-- The names that pass a test. -/
def keep (p : String → Bool) (s : NameSet) : NameSet :=
  s.filterMap fun name _ => if p name then some () else none

@[simp] theorem contains_keep (p : String → Bool) (s : NameSet) (name : String) :
    (s.keep p).contains name = (s.contains name && p name) := by
  rw [keep, Dict.contains, Dict.get?_filterMap, Dict.contains]
  cases s.get? name <;> cases p name <;> simp

theorem keep_congr {p q : String → Bool} {s : NameSet}
    (h : ∀ name, s.contains name = true → p name = q name) : s.keep p = s.keep q := by
  apply ext_contains
  intro name
  rw [contains_keep, contains_keep]
  cases hname : s.contains name with
  | false => rfl
  | true => rw [h name hname]

theorem keep_eq_self {p : String → Bool} {s : NameSet}
    (h : ∀ name, s.contains name = true → p name = true) : s.keep p = s := by
  apply ext_contains
  intro name
  rw [contains_keep]
  cases hname : s.contains name with
  | false => rfl
  | true => rw [h name hname]; rfl

theorem any_keys_iff (names : NameSet) (p : String → Bool) :
    names.keys.any p = true ↔ ∃ name, names.contains name = true ∧ p name = true := by
  simp only [List.any_eq_true, mem_keys_iff]

theorem isEmpty_keep (names : NameSet) (p : String → Bool) :
    Dict.isEmpty (names.keep p) = !names.keys.any p := by
  rw [Bool.eq_iff_iff, Dict.isEmpty_iff, Bool.not_eq_true', ← Bool.not_eq_true, any_keys_iff]
  simp only [contains_keep, Bool.and_eq_false_imp, not_exists, not_and, Bool.not_eq_true]

/-- What is looked for among the names of a set is found among those that are kept, when it is
kept. -/
theorem any_keys_keep {names : NameSet} {p q : String → Bool}
    (h : ∀ name, q name = true → p name = true) :
    (Dict.keys (names.keep p)).any q = names.keys.any q := by
  rw [Bool.eq_iff_iff, any_keys_iff, any_keys_iff]
  refine exists_congr fun name => and_congr_left fun hname => ?_
  rw [contains_keep, h name hname, Bool.and_true]

end NameSet

end AccountLending
