import AccountLending.Proofs.Clearing.Deeds

/-!
# How a principal is removed

Roles and users are removed in the same way: each kind of dependents is listed and removed name by
name, and then the principal is deleted, unless a listing was refused or something was left.

* `Column` — one kind of dependents, as a set of names in the content of the principal;
* `Principal` — the columns and the deletion of a principal;
* `Principal.does` — the deeds of the removal, and what is left.
-/

namespace AccountLending.Lending

open Iam (Query Removal)

variable {ρ : Type} (failing : NameSet)

/-! ## One kind of dependents -/

/-- One kind of dependents of a principal, whose names are a part of the principal's content. -/
structure Column (ρ : Type) where
  dependents : Dependents
  target : String → Target
  names : ρ → NameSet
  set : NameSet → ρ → ρ

namespace Column

/-- How an account answers about a column of a principal, where `place` is the account with a
content of the principal. -/
structure Holds (column : Column ρ) (place : ρ → Iam) : Prop where
  names_set : ∀ names x, column.names (column.set names x) = names
  set_names : ∀ x, column.set (column.names x) x = x
  set_set : ∀ names others x, column.set names (column.set others x) = column.set names x
  listed : ∀ x, ∃ answer, (place x).answer column.dependents.query = .ok answer ∧
    column.dependents.targets answer = (column.names x).keys.map column.target
  removed : ∀ x name, (column.names x).contains name = true →
    (place x).apply (column.target name).removal =
      .ok (place (column.set ((column.names x).erase name) x))

/-- Whether a column cannot be listed. -/
def isUnlisted (column : Column ρ) : Bool := refused failing (.query column.dependents.query)

/-- The names of a column that are left. -/
def survivors (column : Column ρ) (x : ρ) : NameSet :=
  (column.names x).keep fun name =>
    column.isUnlisted failing || refused failing (.remove (column.target name).removal)

/-- The content of the principal after one of its columns was removed. -/
def left (column : Column ρ) (x : ρ) : ρ := column.set (column.survivors failing x) x

/-- What is done to remove a column. -/
def deeds (principal : String) (column : Column ρ) (x : ρ) : List Deed :=
  if column.isUnlisted failing then
    [.unlisted column.dependents.query (principal ++ "/" ++ column.dependents.words)]
  else .listed column.dependents.query :: (column.names x).keys.map fun name =>
    .tried (column.target name) (granted failing (column.target name).removal)

variable {failing} {column : Column ρ} {place : ρ → Iam} {site : Site}

/-- What a column is with some of its names left. -/
theorem Holds.set_keep_eq (h : column.Holds place) {p : String → Bool} {x : ρ}
    (hp : ∀ name, (column.names x).contains name = true → p name = true) :
    column.set ((column.names x).keep p) x = x := by
  rw [NameSet.keep_eq_self hp, h.set_names]

theorem left_of_isUnlisted (h : column.Holds place)
    (hunlisted : column.isUnlisted failing = true) (x : ρ) : column.left failing x = x :=
  h.set_keep_eq fun _ _ => by rw [hunlisted, Bool.true_or]

/-- The content of the principal after some of the names of a column were removed. -/
def leftAmong (failing : NameSet) (column : Column ρ) (done : List String) (x : ρ) : ρ :=
  column.set ((column.names x).keep fun name =>
    !done.contains name || refused failing (.remove (column.target name).removal)) x

theorem leftAmong_nil (failing : NameSet) (h : column.Holds place) (x : ρ) :
    column.leftAmong failing [] x = x :=
  h.set_keep_eq fun _ _ => rfl

theorem leftAmong_keys (hlisted : column.isUnlisted failing = false) (x : ρ) :
    column.leftAmong failing (column.names x).keys x = column.left failing x := by
  refine congrArg (column.set · x) (NameSet.keep_congr fun name hname => ?_)
  have hmem : (column.names x).keys.contains name = true := by
    rw [List.contains_iff_mem]
    exact (NameSet.mem_keys_iff _ _).2 hname
  rw [hmem, hlisted]
  rfl

/-- One name more is removed. -/
theorem does_target (failing : NameSet) (site : Site) (h : column.Holds place) {x : ρ}
    {done : List String} {name : String} (hname : (column.names x).contains name = true)
    (hnew : name ∉ done) :
    Does failing (attempt site (column.target name)) (place (column.leftAmong failing done x))
      [.tried (column.target name) (granted failing (column.target name).removal)]
      (place (column.leftAmong failing (done ++ [name]) x)) := by
  have hnow : (column.names (column.leftAmong failing done x)).contains name = true := by
    simp [leftAmong, h.names_set, hname, hnew]
  have hattempt := does_attempt_of_apply failing site (h.removed _ name hnow)
  have hafter : (if refused failing (.remove (column.target name).removal) then
        place (column.leftAmong failing done x)
      else place (column.set ((column.names (column.leftAmong failing done x)).erase name)
        (column.leftAmong failing done x))) =
          place (column.leftAmong failing (done ++ [name]) x) := by
    split
    · rename_i hrefused
      refine congrArg (fun names => place (column.set names x))
        (NameSet.keep_congr fun other _ => ?_)
      by_cases heq : other = name <;> simp [heq, hrefused]
    · rename_i hgranted
      unfold leftAmong
      rw [h.names_set, h.set_set]
      refine congrArg (fun names => place (column.set names x))
        (NameSet.ext_contains fun other => ?_)
      rw [NameSet.contains_erase, NameSet.contains_keep, NameSet.contains_keep]
      by_cases heq : other = name <;> simp [heq, hgranted]
  rwa [hafter] at hattempt

/-- The names of a column are removed one after the other. -/
theorem does_targets (site : Site) (h : column.Holds place)
    (hlisted : column.isUnlisted failing = false) (x : ρ) :
    Does failing (forEach (attempt site) ((column.names x).keys.map column.target)) (place x)
      ((column.names x).keys.map fun name =>
        .tried (column.target name) (granted failing (column.target name).removal))
      (place (column.left failing x)) := by
  rw [forEach_map, ← List.flatMap_singleton' (List.map _ _), List.flatMap_map]
  have hall :=
    does_forEach failing (fun name => attempt site (column.target name)) (column.names x).keys
      (fun name => [.tried (column.target name) (granted failing (column.target name).removal)])
      (fun done => place (column.leftAmong failing done x)) ?_
  · rwa [leftAmong_nil failing h, leftAmong_keys hlisted] at hall
  intro done name rest hkeys
  have hname : (column.names x).contains name = true := by
    rw [← NameSet.mem_keys_iff, hkeys]
    simp
  apply does_target failing site h hname
  intro hmem
  -- no name is listed twice
  have hnodup := Dict.nodup_keys (column.names x)
  rw [hkeys, List.nodup_middle] at hnodup
  exact hnodup.notMem (List.mem_append_left _ hmem)

theorem deeds_of_isUnlisted (hunlisted : column.isUnlisted failing = true)
    (principal : String) (x : ρ) :
    column.deeds failing principal x =
      [.unlisted column.dependents.query (principal ++ "/" ++ column.dependents.words)] :=
  if_pos hunlisted

theorem deeds_of_listed (hlisted : column.isUnlisted failing = false) (principal : String) (x : ρ) :
    column.deeds failing principal x =
      .listed column.dependents.query :: (column.names x).keys.map fun name =>
        .tried (column.target name) (granted failing (column.target name).removal) :=
  if_neg (by rw [hlisted]; exact Bool.false_ne_true)

end Column

/-! ## All dependents -/

/-- The content of a principal after its columns were removed. -/
def stripLeft (failing : NameSet) (columns : List (Column ρ)) (x : ρ) : ρ :=
  columns.foldl (fun x column => column.left failing x) x

/-- What is done to remove the columns of a principal. -/
def stripDeeds (failing : NameSet) (principal : String) : List (Column ρ) → ρ → List Deed
  | [], _ => []
  | column :: rest, x =>
    column.deeds failing principal x ++ stripDeeds failing principal rest (column.left failing x)

/-- Why a principal has to be left. -/
def blockedBy (failing : NameSet) (blocked : Option String) (columns : List (Column ρ)) :
    Option String :=
  columns.foldl (fun blocked column =>
    if column.isUnlisted failing then some ("could not list " ++ column.dependents.words)
    else blocked)
    blocked

theorem isSome_blockedBy (blocked : Option String) (columns : List (Column ρ)) :
    (blockedBy failing blocked columns).isSome =
      (blocked.isSome || columns.any (·.isUnlisted failing)) := by
  induction columns generalizing blocked with
  | nil => simp [blockedBy]
  | cons column rest ih =>
    have hrest := ih (if column.isUnlisted failing then
      some ("could not list " ++ column.dependents.words) else blocked)
    rw [blockedBy, List.foldl_cons, ← blockedBy, hrest, List.any_cons]
    cases column.isUnlisted failing <;> simp

variable {failing}

theorem leads_strip (failing : NameSet) (site : Site) {columns : List (Column ρ)} {place : ρ → Iam}
    (h : ∀ column ∈ columns, column.Holds place) (principal : String)
    (blocked : Option String) (x : ρ) :
    Leads failing (strip site principal blocked (columns.map (·.dependents))) (place x)
      (Deed.entries (stripDeeds failing principal columns x), blockedBy failing blocked columns)
      (Deed.calls (stripDeeds failing principal columns x))
      (place (stripLeft failing columns x)) := by
  induction columns generalizing blocked x with
  | nil => exact leads_done _
  | cons column rest ih =>
    have hcolumn := h column List.mem_cons_self
    have hrest := ih fun other hother => h other (List.mem_cons_of_mem _ hother)
    rw [stripDeeds, stripLeft, List.foldl_cons, ← stripLeft, blockedBy,
      List.foldl_cons, ← blockedBy, Deed.calls_append, Deed.entries_append, List.map_cons]
    -- a column that cannot be listed stays as it is, and blocks the principal from then on
    cases hunlisted : column.isUnlisted failing with
    | true =>
      have hblocked := hrest (some ("could not list " ++ column.dependents.words)) x
      rw [Column.deeds_of_isUnlisted hunlisted, Column.left_of_isUnlisted hcolumn hunlisted,
        if_pos rfl]
      simp only [strip, Program.bind_eq, Program.pure_eq_done]
      refine Leads.bind_of_eq (leads_iam_refused hunlisted) ?_ rfl
      refine Leads.bind_of_eq (leads_note site _) ?_ (List.nil_append _).symm
      exact Leads.bind_of_eq hblocked (leads_done _) (List.append_nil _).symm
    | false =>
      obtain ⟨answer, hanswer, htargets⟩ := hcolumn.listed x
      have htried := Column.does_targets site hcolumn hunlisted x
      have hblocked := hrest blocked (column.left failing x)
      rw [Column.deeds_of_listed hunlisted, if_neg Bool.false_ne_true]
      simp only [strip, Program.bind_eq, Program.pure_eq_done]
      refine Leads.bind_of_eq (leads_query hunlisted hanswer) ?_ rfl
      simp only [htargets]
      refine Leads.bind_of_eq htried ?_ rfl
      exact Leads.bind_of_eq hblocked (leads_done _) (List.append_nil _).symm

theorem forall_stripDeeds {P : Deed → Prop} {principal : String} {columns : List (Column ρ)}
    (hlisted : ∀ column ∈ columns, P (.listed column.dependents.query))
    (hunlisted : ∀ column ∈ columns, ∀ name, P (.unlisted column.dependents.query name))
    (htried : ∀ column ∈ columns, ∀ name reply, P (.tried (column.target name) reply)) (x : ρ) :
    ∀ deed ∈ stripDeeds failing principal columns x, P deed := by
  induction columns generalizing x with
  | nil => simp [stripDeeds]
  | cons column rest ih =>
    intro deed hdeed
    rcases List.mem_append.1 hdeed with hdeed | hdeed
    · unfold Column.deeds at hdeed
      split at hdeed
      · rw [List.mem_singleton.1 hdeed]
        exact hunlisted column List.mem_cons_self _
      · rcases List.mem_cons.1 hdeed with rfl | hdeed
        · exact hlisted column List.mem_cons_self
        · obtain ⟨key, -, rfl⟩ := List.mem_map.1 hdeed
          exact htried column List.mem_cons_self key _
    · exact ih (fun c hc => hlisted c (List.mem_cons_of_mem _ hc))
        (fun c hc => hunlisted c (List.mem_cons_of_mem _ hc))
        (fun c hc => htried c (List.mem_cons_of_mem _ hc)) _ deed hdeed

/-! ## The whole principal -/

/-- A principal with its columns, and how it is deleted when nothing depends on it. -/
structure Principal (ρ : Type) where
  columns : List (Column ρ)
  target : Target
  isBare : ρ → Bool
  /-- Why it cannot be deleted while something depends on it. -/
  inUse : ServiceError.Reason

namespace Principal

/-- How an account answers about a principal, where `place` is the account with a content of the
principal or without it. -/
structure Holds (principal : Principal ρ) (place : Option ρ → Iam) : Prop where
  columns : ∀ column ∈ principal.columns, column.Holds fun x => place (some x)
  deleted : ∀ x, (place (some x)).apply principal.target.removal =
    if principal.isBare x then .ok (place none) else .error principal.inUse

/-- Whether a principal is left because one of its columns cannot be listed. -/
def isBlocked (failing : NameSet) (principal : Principal ρ) : Bool :=
  principal.columns.any (·.isUnlisted failing)

/-- What is left of a principal. -/
def left (failing : NameSet) (principal : Principal ρ) (x : ρ) : Option ρ :=
  let stripped := stripLeft failing principal.columns x
  if principal.isBlocked failing || refused failing (.remove principal.target.removal)
      || !principal.isBare stripped then some stripped else none

/-- The reply to the deletion of a principal of a content. -/
def deletion (failing : NameSet) (principal : Principal ρ) (x : ρ) : Except ServiceError Unit :=
  if principal.isBare x then granted failing principal.target.removal
  else if refused failing (.remove principal.target.removal) then
    .error (refusal (.remove principal.target.removal))
  else .error ⟨.iam, principal.inUse⟩

/-- What is done to a principal after its columns were removed. -/
def lastDeed (failing : NameSet) (principal : Principal ρ) (x : ρ) : Deed :=
  match blockedBy failing none principal.columns with
  | some reason => .left principal.target.kind principal.target.name reason
  | none =>
    .tried principal.target (principal.deletion failing (stripLeft failing principal.columns x))

/-- What is done to remove a principal. -/
def deeds (failing : NameSet) (principal : Principal ρ) (x : ρ) : List Deed :=
  stripDeeds failing principal.target.name principal.columns x ++ [principal.lastDeed failing x]

variable {principal : Principal ρ} {place : Option ρ → Iam} {site : Site}

theorem does_attempt (h : principal.Holds place) (x : ρ) :
    Does failing (attempt site principal.target) (place (some x))
      [.tried principal.target (principal.deletion failing x)]
      (place (if refused failing (.remove principal.target.removal) || !principal.isBare x
        then some x else none)) := by
  have hattempt := Lending.does_attempt failing (place (some x)) site principal.target
  unfold outcome at hattempt
  unfold deletion granted
  rw [h.deleted] at hattempt
  -- a deletion that is not refused can still be stood against by what depends on the principal
  cases hbare : principal.isBare x <;>
    cases hrefused : refused failing (.remove principal.target.removal) <;>
      simpa [hbare, hrefused] using hattempt

/-- Removing a principal. -/
theorem does (failing : NameSet) (site : Site) (h : principal.Holds place) (x : ρ) :
    Does failing (removePrincipal site (principal.columns.map (·.dependents)) principal.target)
      (place (some x)) (principal.deeds failing x) (place (principal.left failing x)) := by
  have hstrip := leads_strip failing site h.columns principal.target.name none x
  -- whether the principal is blocked depends on the listings of its columns only
  have hsome := isSome_blockedBy failing none principal.columns
  rw [Option.isSome_none, Bool.false_or, ← isBlocked] at hsome
  rw [Does, deeds, Deed.entries_append, Deed.calls_append, removePrincipal, lastDeed, left]
  cases hblocked : blockedBy failing none principal.columns with
  | some reason =>
    rw [hblocked] at hstrip hsome
    rw [← hsome]
    refine Leads.bind_of_eq hstrip ?_ rfl
    exact Leads.bind_of_eq (leads_note site _) (leads_done _) rfl
  | none =>
    rw [hblocked] at hstrip hsome
    rw [← hsome]
    refine Leads.bind_of_eq hstrip ?_ rfl
    exact Leads.bind_of_eq (does_attempt h _) (leads_done _) (List.append_nil _).symm

/-- What holds of every deed that the removal of a principal can have. -/
theorem forall_deeds {P : Deed → Prop} {principal : Principal ρ}
    (hlisted : ∀ column ∈ principal.columns, P (.listed column.dependents.query))
    (hunlisted : ∀ column ∈ principal.columns, ∀ name, P (.unlisted column.dependents.query name))
    (htried : ∀ column ∈ principal.columns, ∀ name reply, P (.tried (column.target name) reply))
    (hleft : ∀ reason, P (.left principal.target.kind principal.target.name reason))
    (hlast : ∀ reply, P (.tried principal.target reply)) (x : ρ) :
    ∀ deed ∈ principal.deeds failing x, P deed := by
  intro deed hdeed
  rcases List.mem_append.1 hdeed with hdeed | hdeed
  · exact forall_stripDeeds hlisted hunlisted htried x deed hdeed
  · rw [List.mem_singleton.1 hdeed, lastDeed]
    split
    · exact hleft _
    · exact hlast _

end Principal

/-! ## Dictionaries of principals -/

/-- Something is done for the entries of a dictionary that pass a test, each of which it changes or
drops. -/
theorem does_forEach_entries {κ : Type} (failing : NameSet) (d : Dict ρ) (place : Dict ρ → Iam)
    (p : String × ρ → Bool) (item : String × ρ → κ) (act : κ → Engine (List Artifact))
    (deeds : String × ρ → List Deed) (f : String → ρ → Option ρ)
    (hact : ∀ now name x, d.get? name = some x → now.get? name = some x → p (name, x) = true →
      Does failing (act (item (name, x))) (place now) (deeds (name, x))
        (place (now.put name (f name x)))) :
    Does failing (forEach act ((d.entries.filter p).map item)) (place d)
      ((d.entries.filter p).flatMap deeds)
      (place (d.filterMap fun name x => if p (name, x) then f name x else some x)) := by
  have hlast : d.changeAmong f ((d.entries.filter p).map Prod.fst) =
      d.filterMap fun name x => if p (name, x) then f name x else some x := by
    apply Dict.ext_get?
    intro name
    rw [Dict.get?_changeAmong, Dict.get?_filterMap]
    cases hname : d.get? name with
    | none => rfl
    | some x => simp only [Option.bind_some, List.contains_iff_mem, Dict.mem_map_fst_filter hname]
  have hall := does_forEach failing (fun e => act (item e)) (d.entries.filter p) deeds
    (fun done => place (d.changeAmong f (done.map Prod.fst))) ?_
  · simpa only [forEach_map, List.map_nil, Dict.changeAmong_nil, hlast] using hall
  rintro done ⟨name, x⟩ rest hentries
  obtain ⟨hentry, hp⟩ : (name, x) ∈ d.entries ∧ p (name, x) = true := by
    rw [← List.mem_filter, hentries]
    exact List.mem_append_right _ List.mem_cons_self
  have hname := (Dict.mem_entries_iff d name x).1 hentry
  -- the entry was not there before, since no two entries have one name
  have hnew : name ∉ done.map Prod.fst := by
    have hnodup : ((d.entries.filter p).map Prod.fst).Nodup :=
      (Dict.nodup_keys d).sublist (List.filter_sublist.map _)
    rw [hentries, List.map_append, List.map_cons, List.nodup_middle] at hnodup
    exact fun hmem => hnodup.notMem (List.mem_append_left _ hmem)
  have hnow : (d.changeAmong f (done.map Prod.fst)).get? name = some x := by
    simp [Dict.get?_changeAmong, hname, hnew]
  rw [List.map_append, List.map_cons, List.map_nil, Dict.changeAmong_append f _ hname]
  exact hact _ name x hname hnow hp

end AccountLending.Lending
