/-!
# Dictionaries kept in the order of their names

A `Dict` is a finite map from names to values whose entries are stored in strictly increasing order
of the names.  The order is part of the type, so listing a dictionary needs no sorting and two
dictionaries with the same look-ups are equal (`Dict.ext_get?`).  A set of names is a dictionary
without values (`NameSet`).

* `get?_insert`, `get?_erase`, `get?_modify` say what each operation does to the look-ups;
* `mem_entries_iff` ties the look-ups to the stored entries.
-/

namespace AccountLending

/-- A finite map from names to values, stored in strictly increasing order of the names. -/
structure Dict (α : Type) where
  /-- The names with their values. -/
  entries : List (String × α)
  increasing : entries.Pairwise (fun a b => a.1 < b.1) := by simp

namespace Dict

variable {α : Type}

instance [DecidableEq α] : DecidableEq (Dict α) := fun a b =>
  decidable_of_iff (a.entries = b.entries) (by cases a; cases b; simp)

instance [Repr α] : Repr (Dict α) := ⟨fun d n => reprPrec d.entries n⟩

/-! ## Operations -/

/-- The dictionary without entries. -/
def empty : Dict α := { entries := [] }

instance : EmptyCollection (Dict α) := ⟨empty⟩
instance : Inhabited (Dict α) := ⟨empty⟩

/-- The value stored under a name. -/
def get? (d : Dict α) (name : String) : Option α := d.entries.lookup name

/-- Whether a name has a value. -/
def contains (d : Dict α) (name : String) : Bool := (d.get? name).isSome

/-- The names, in increasing order. -/
def keys (d : Dict α) : List String := d.entries.map Prod.fst

/-- The values, in the order of their names. -/
def values (d : Dict α) : List α := d.entries.map Prod.snd

/-- The number of names. -/
def size (d : Dict α) : Nat := d.entries.length

/-- Whether there is no name. -/
def isEmpty (d : Dict α) : Bool := d.entries.isEmpty

/-- Put one entry at its place, replacing an entry of the same name. -/
def insertEntry (name : String) (value : α) : List (String × α) → List (String × α)
  | [] => [(name, value)]
  | (n, v) :: rest =>
    if name < n then (name, value) :: (n, v) :: rest
    else if name = n then (name, value) :: rest
    else (n, v) :: insertEntry name value rest

theorem mem_insertEntry {name : String} {value : α} {e : String × α} {l : List (String × α)}
    (h : e ∈ insertEntry name value l) : e = (name, value) ∨ e ∈ l := by
  induction l with
  | nil => simpa [insertEntry] using h
  | cons p rest ih =>
    obtain ⟨n, v⟩ := p
    rw [insertEntry] at h
    split at h
    · simpa using h
    · split at h
      · rcases List.mem_cons.1 h with h | h
        · exact .inl h
        · exact .inr (List.mem_cons_of_mem _ h)
      · rcases List.mem_cons.1 h with h | h
        · exact .inr (h ▸ List.mem_cons_self)
        · exact (ih h).imp_right (List.mem_cons_of_mem _)

/-- Two names neither of which precedes the other are equal. -/
theorem eq_of_not_lt_of_not_lt {a b : String} (h : ¬ a < b) (h' : ¬ b < a) : a = b :=
  String.le_antisymm (String.not_lt.1 h') (String.not_lt.1 h)

theorem insertEntry_increasing {name : String} {value : α} {l : List (String × α)}
    (h : l.Pairwise (fun a b => a.1 < b.1)) :
    (insertEntry name value l).Pairwise (fun a b => a.1 < b.1) := by
  induction l with
  | nil => simp [insertEntry]
  | cons p rest ih =>
    obtain ⟨n, v⟩ := p
    obtain ⟨hhead, htail⟩ := List.pairwise_cons.1 h
    rw [insertEntry]
    split
    · rename_i hlt
      refine List.pairwise_cons.2 ⟨fun e he => ?_, h⟩
      rcases List.mem_cons.1 he with rfl | he
      · exact hlt
      · exact String.lt_trans hlt (hhead e he)
    · rename_i hnlt
      split
      · rename_i heq
        subst heq
        exact List.pairwise_cons.2 ⟨fun e he => hhead e he, htail⟩
      · rename_i hne
        refine List.pairwise_cons.2 ⟨fun e he => ?_, ih htail⟩
        rcases mem_insertEntry he with rfl | he
        · refine Decidable.byContradiction fun hcon => hne ?_
          exact eq_of_not_lt_of_not_lt hnlt hcon
        · exact hhead e he

/-- Store a value under a name, replacing the value it had. -/
def insert (d : Dict α) (name : String) (value : α) : Dict α :=
  ⟨insertEntry name value d.entries, insertEntry_increasing d.increasing⟩

/-- Forget a name. -/
def erase (d : Dict α) (name : String) : Dict α :=
  ⟨d.entries.filter (fun e => e.1 ≠ name), d.increasing.filter _⟩

/-- Change the value stored under a name, if there is one. -/
def modify (d : Dict α) (name : String) (f : α → α) : Dict α :=
  ⟨d.entries.map (fun e => if e.1 = name then (e.1, f e.2) else e), by
    refine List.pairwise_map.2 (d.increasing.imp fun {a b} h => ?_)
    split <;> split <;> simpa using h⟩

/-- Store a list of entries one after the other: of two entries of one name the later stays. -/
def insertAll (d : Dict α) (entries : List (String × α)) : Dict α :=
  entries.foldl (fun d e => d.insert e.1 e.2) d

/-- Forget a list of names. -/
def eraseAll (d : Dict α) (names : List String) : Dict α :=
  names.foldl erase d

/-- The dictionary of a list of entries: of two entries of one name the later stays. -/
def ofList (entries : List (String × α)) : Dict α := insertAll empty entries

/-! ## Look-ups -/

@[simp] theorem get?_empty (name : String) : (empty : Dict α).get? name = none := rfl

theorem lookup_cons_eq (n : String) (v : α) (rest : List (String × α)) (k : String) :
    ((n, v) :: rest).lookup k = if k = n then some v else rest.lookup k := by
  by_cases h : k = n
  · subst h; simp
  · have hb : (k == n) = false := beq_eq_false_iff_ne.2 h
    simp only [List.lookup_cons, hb, h, ↓reduceIte]

theorem lookup_insertEntry (name : String) (value : α) (l : List (String × α)) (k : String) :
    (insertEntry name value l).lookup k = if k = name then some value else l.lookup k := by
  induction l with
  | nil => simp [insertEntry, lookup_cons_eq]
  | cons p rest ih =>
    obtain ⟨n, v⟩ := p
    rw [insertEntry]
    split
    · simp only [lookup_cons_eq]
    · split
      · rename_i heq
        subst heq
        simp only [lookup_cons_eq]
        split <;> rfl
      · rename_i hne
        simp only [lookup_cons_eq, ih]
        by_cases h : k = n
        · subst h
          simp [Ne.symm hne]
        · simp [h]

theorem get?_insert (d : Dict α) (name : String) (value : α) (k : String) :
    (d.insert name value).get? k = if k = name then some value else d.get? k :=
  lookup_insertEntry name value d.entries k

@[simp] theorem get?_insert_self (d : Dict α) (name : String) (value : α) :
    (d.insert name value).get? name = some value := by
  simp [get?_insert]

theorem get?_erase (d : Dict α) (name k : String) :
    (d.erase name).get? k = if k = name then none else d.get? k := by
  obtain ⟨l, hl⟩ := d
  simp only [erase, get?]
  clear hl
  induction l with
  | nil => simp
  | cons p rest ih =>
    obtain ⟨n, v⟩ := p
    by_cases hn : n = name
    · subst hn
      rw [List.filter_cons_of_neg (by simp), ih, lookup_cons_eq]
      split <;> rfl
    · rw [List.filter_cons_of_pos (by simpa using hn), lookup_cons_eq, lookup_cons_eq, ih]
      by_cases h : k = n
      · subst h
        simp [hn]
      · simp [h]

theorem get?_modify (d : Dict α) (name : String) (f : α → α) (k : String) :
    (d.modify name f).get? k = if k = name then (d.get? k).map f else d.get? k := by
  obtain ⟨l, hl⟩ := d
  simp only [modify, get?]
  clear hl
  induction l with
  | nil => simp
  | cons p rest ih =>
    obtain ⟨n, v⟩ := p
    rw [List.map_cons, lookup_cons_eq]
    by_cases hn : n = name
    · subst hn
      rw [if_pos rfl, lookup_cons_eq, ih]
      by_cases h : k = n <;> simp [h]
    · rw [if_neg hn, lookup_cons_eq, ih]
      by_cases h : k = n
      · subst h
        simp [hn]
      · simp [h]

/-- An entry is stored exactly when looking its name up finds its value. -/
theorem mem_entries_iff (d : Dict α) (name : String) (value : α) :
    (name, value) ∈ d.entries ↔ d.get? name = some value := by
  obtain ⟨l, hl⟩ := d
  simp only [get?]
  induction l with
  | nil => simp
  | cons p rest ih =>
    obtain ⟨n, v⟩ := p
    obtain ⟨hhead, htail⟩ := List.pairwise_cons.1 hl
    have ih := ih htail
    rw [lookup_cons_eq]
    by_cases h : name = n
    · subst h
      simp only [List.mem_cons, Prod.mk.injEq, true_and, ↓reduceIte, Option.some.injEq]
      constructor
      · rintro (rfl | hmem)
        · rfl
        · exact absurd (hhead _ hmem) (String.lt_irrefl _)
      · rintro rfl
        exact .inl rfl
    · simp only [List.mem_cons, Prod.mk.injEq, h, false_and, false_or, ↓reduceIte]
      exact ih

theorem mem_keys_iff (d : Dict α) (name : String) :
    name ∈ d.keys ↔ ∃ value, d.get? name = some value := by
  simp only [keys, List.mem_map]
  constructor
  · rintro ⟨⟨n, v⟩, hmem, rfl⟩
    exact ⟨v, (mem_entries_iff d n v).1 hmem⟩
  · rintro ⟨value, h⟩
    exact ⟨(name, value), (mem_entries_iff d name value).2 h, rfl⟩

/-- Dictionaries with the same look-ups are equal. -/
theorem ext_get? {d d' : Dict α} (h : ∀ name, d.get? name = d'.get? name) : d = d' := by
  have hmem : ∀ e, e ∈ d.entries ↔ e ∈ d'.entries := fun ⟨n, v⟩ => by
    rw [mem_entries_iff, mem_entries_iff, h]
  obtain ⟨l, hl⟩ := d
  obtain ⟨l', hl'⟩ := d'
  simp only at hmem
  clear h
  suffices l = l' by subst this; rfl
  induction l generalizing l' with
  | nil =>
    cases l' with
    | nil => rfl
    | cons p rest => exact absurd ((hmem p).2 List.mem_cons_self) (by simp)
  | cons p rest ih =>
    cases l' with
    | nil => exact absurd ((hmem p).1 List.mem_cons_self) (by simp)
    | cons q rest' =>
      obtain ⟨hp, hrest⟩ := List.pairwise_cons.1 hl
      obtain ⟨hq, hrest'⟩ := List.pairwise_cons.1 hl'
      have hpq : p = q := by
        rcases List.mem_cons.1 ((hmem p).1 List.mem_cons_self) with h | h
        · exact h
        · rcases List.mem_cons.1 ((hmem q).2 List.mem_cons_self) with h' | h'
          · exact h'.symm
          · exact absurd (String.lt_trans (hq p h) (hp q h')) (String.lt_irrefl _)
      subst hpq
      refine congrArg _ (ih hrest rest' hrest' fun e => ⟨fun he => ?_, fun he => ?_⟩)
      · rcases List.mem_cons.1 ((hmem e).1 (List.mem_cons_of_mem _ he)) with rfl | h
        · exact absurd (hp _ he) (String.lt_irrefl _)
        · exact h
      · rcases List.mem_cons.1 ((hmem e).2 (List.mem_cons_of_mem _ he)) with rfl | h
        · exact absurd (hq _ he) (String.lt_irrefl _)
        · exact h

end Dict

/-! ## Sets of names -/

/-- A finite set of names, listed in increasing order. -/
abbrev NameSet := Dict Unit

namespace NameSet

/-- Add a name. -/
def add (s : NameSet) (name : String) : NameSet := s.insert name ()

/-- The set of the names of a list. -/
def ofNames (names : List String) : NameSet := names.foldl add Dict.empty

end NameSet

end AccountLending
