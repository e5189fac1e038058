import CompileServer.Toml.Value
import Mathlib.Logic.Relation

/-!
# Tables with more in them

A reader knows some names at every path of a document and passes over all others.  A table
gets wider when entries are added that the reader does not know, at any depth and in any
place, or when entries change places.  What is found under the known names stays the same up
to such changes further inside.
-/

namespace CompileServer.Toml

/-! ## Drafts of tables -/

mutual

/-- Every value of a document can be passed over. -/
theorem canSkip_toDraft (value : Value) : value.toDraft.canSkip = true := by
  cases value with
  | str | int | float | bool => rfl
  | moment text => rfl
  | arr items => simp only [Value.toDraft, Draft.canSkip, canSkipItems_draftsOf, Bool.and_self]
  | table entries =>
      simp only [Value.toDraft, Draft.canSkip, canSkipMembers_membersOf, Bool.and_self]

theorem canSkipItems_draftsOf (items : List Value) : Draft.canSkipItems (draftsOf items) = true := by
  cases items with
  | nil => rfl
  | cons item rest =>
      simp only [draftsOf, Draft.canSkipItems, canSkip_toDraft item, canSkipItems_draftsOf rest,
        Bool.and_self]

theorem canSkipMembers_membersOf (entries : Table) :
    Draft.canSkipMembers (membersOf entries) = true := by
  cases entries with
  | nil => rfl
  | cons entry rest =>
      simp only [membersOf, Draft.canSkipMembers, canSkip_toDraft entry.2,
        canSkipMembers_membersOf rest, Bool.and_self]

end

theorem lookup_cons_eq {β : Type} (name : String) (entry : String × β)
    (rest : List (String × β)) :
    (entry :: rest).lookup name = if name = entry.1 then some entry.2 else rest.lookup name := by
  rw [List.lookup_cons]
  by_cases hname : name = entry.1
  · rw [if_pos hname, hname, BEq.rfl]
  · rw [if_neg hname, beq_false_of_ne hname]

theorem lookup_membersOf (entries : Table) (name : String) :
    (membersOf entries).lookup (some name) = (entries.lookup name).map Value.toDraft := by
  induction entries with
  | nil => rfl
  | cons entry rest ih =>
      have hkeys : (some name == some entry.1) = (name == entry.1) := rfl
      rw [membersOf, List.lookup_cons, List.lookup_cons, hkeys]
      split
      · rfl
      · exact ih

/-! ## Leaving entries out -/

mutual

/-- The value at a path without the keys that are gone. -/
def Value.prune (gone : List String → Bool) (path : List String) : Value → Value
  | .table entries => .table (pruneEntries gone path entries)
  | other => other

/-- The entries of the table at a path without the keys that are gone. -/
def pruneEntries (gone : List String → Bool) (path : List String) :
    List (String × Value) → List (String × Value)
  | [] => []
  | (key, value) :: rest =>
    if gone (path ++ [key]) then pruneEntries gone path rest
    else (key, value.prune gone (path ++ [key])) :: pruneEntries gone path rest

end

theorem lookup_pruneEntries (gone : List String → Bool) (path : List String) (entries : Table)
    (name : String) :
    (pruneEntries gone path entries).lookup name =
      if gone (path ++ [name]) then none
      else (entries.lookup name).map (Value.prune gone (path ++ [name])) := by
  induction entries with
  | nil => rw [pruneEntries, List.lookup_nil, Option.map_none, ite_self]
  | cons entry rest ih =>
      obtain ⟨key, value⟩ := entry
      rw [pruneEntries, lookup_cons_eq]
      by_cases hname : name = key
      · subst hname
        by_cases hgone : gone (path ++ [name]) = true
        · rw [if_pos hgone, ih, if_pos hgone, if_pos hgone]
        · rw [if_neg hgone, if_neg hgone, lookup_cons_eq, if_pos rfl, if_pos rfl, Option.map_some]
      · rw [if_neg hname]
        split
        · exact ih
        · rw [lookup_cons_eq, if_neg hname, ih]

theorem map_fst_pruneEntries (gone : List String → Bool) (path : List String) (entries : Table) :
    ((pruneEntries gone path entries).map Prod.fst).Sublist (entries.map Prod.fst) := by
  induction entries with
  | nil => exact List.Sublist.refl _
  | cons entry rest ih =>
      rw [pruneEntries]
      split
      · exact ih.cons entry.1
      · exact ih.cons_cons entry.1

mutual

/-- Without keys that are gone, a value stays the same. -/
theorem prune_none (path : List String) (value : Value) :
    value.prune (fun _ => false) path = value := by
  cases value with
  | table entries => rw [Value.prune, pruneEntries_none path entries]
  | str | int | float | bool | moment | arr => rfl

theorem pruneEntries_none (path : List String) (entries : Table) :
    pruneEntries (fun _ => false) path entries = entries := by
  cases entries with
  | nil => rfl
  | cons entry rest =>
      rw [pruneEntries, if_neg Bool.false_ne_true, prune_none, pruneEntries_none path rest]

end

/-! ## Adding entries -/

/-- One change that makes the table at a path wider, given the names that are known at every
path. -/
inductive Table.Step (known : List String → List String) : List String → Table → Table → Prop where
  | add {path : List String} (front back : Table) {key : String} (value : Value)
      (hunknown : key ∉ known path) :
      Step known path (front ++ back) (front ++ (key, value) :: back)
  | swap (path : List String) (front : Table) (first second : String × Value) (back : Table) :
      Step known path (front ++ first :: second :: back) (front ++ second :: first :: back)
  | inside {path : List String} (front back : Table) {key : String} {entries others : Table}
      (hstep : Step known (path ++ [key]) entries others) :
      Step known path (front ++ (key, .table entries) :: back)
        (front ++ (key, .table others) :: back)

/-- The second table has all of the first and may be wider. -/
def Table.Widens (known : List String → List String) (path : List String) : Table → Table → Prop :=
  Relation.ReflTransGen (Table.Step known path)

/-- The second value is the first one, or both are tables and it is wider. -/
inductive Value.Widens (known : List String → List String) (path : List String) :
    Value → Value → Prop where
  | same (value : Value) : Widens known path value value
  | table {entries others : Table} (hwidens : Table.Widens known path entries others) :
      Widens known path (.table entries) (.table others)

theorem Value.Widens.trans {known : List String → List String} {path : List String}
    {first second third : Value} (hfirst : Value.Widens known path first second)
    (hsecond : Value.Widens known path second third) : Value.Widens known path first third := by
  cases hfirst with
  | same => exact hsecond
  | table hwidens =>
      cases hsecond with
      | same => exact .table hwidens
      | table hmore => exact .table (hwidens.trans hmore)

/-- A known name is the key of at most one entry. -/
def Table.Distinct (names : List String) (table : Table) : Prop :=
  ((table.map Prod.fst).filter fun key => names.contains key).Nodup

/-- The known names of the second table are distinct, and what is found there under them is
that of the first table or wider. -/
structure Table.Covers (known : List String → List String) (path : List String)
    (table wider : Table) : Prop where
  distinct : wider.Distinct (known path)
  found : ∀ name ∈ known path,
    Option.Rel (Value.Widens known (path ++ [name])) (table.lookup name) (wider.lookup name)

namespace Table

variable {known : List String → List String} {path : List String} {table wider : Table}

theorem rel_refl (found : Option Value) : Option.Rel (Value.Widens known path) found found := by
  cases found with
  | none => exact .none
  | some value => exact .some (.same value)

theorem rel_trans {first second third : Option Value}
    (hfirst : Option.Rel (Value.Widens known path) first second)
    (hsecond : Option.Rel (Value.Widens known path) second third) :
    Option.Rel (Value.Widens known path) first third := by
  cases hfirst with
  | none => exact hsecond
  | some hvalue =>
      cases hsecond with
      | some hmore => exact .some (hvalue.trans hmore)

/-- One change covers the table that it changes. -/
theorem Step.covers (hstep : Step known path table wider) (hdistinct : table.Distinct (known path)) :
    table.Covers known path wider := by
  cases hstep with
  | @add _ front back key value hunknown =>
      have hmiss : ¬ (known path).contains key = true := fun h =>
        hunknown (List.contains_iff_mem.1 h)
      constructor
      · simpa only [Distinct, List.map_append, List.map_cons, List.filter_append,
          List.filter_cons_of_neg hmiss] using hdistinct
      · intro name hname
        have hother : ¬ name = key := fun h => hunknown (h ▸ hname)
        rw [List.lookup_append, List.lookup_append, lookup_cons_eq, if_neg hother]
        exact rel_refl _
  | swap _ front first second back =>
      have hperm : (front ++ second :: first :: back).Perm (front ++ first :: second :: back) :=
        (List.Perm.swap first second back).append_left front
      constructor
      · exact ((hperm.map Prod.fst).filter _).nodup_iff.2 hdistinct
      · intro name hname
        have hother : name = first.1 → ¬ name = second.1 := by
          rintro hfirst hsecond
          unfold Distinct at hdistinct
          rw [List.map_append, List.map_cons, List.map_cons, ← hfirst, ← hsecond,
            List.filter_append, List.filter_cons_of_pos (List.contains_iff_mem.2 hname),
            List.filter_cons_of_pos (List.contains_iff_mem.2 hname)] at hdistinct
          have hpair := (List.nodup_append.1 hdistinct).2.1
          exact (List.nodup_cons.1 hpair).1 List.mem_cons_self
        have hsame : (second :: first :: back).lookup name =
            (first :: second :: back).lookup name := by
          simp only [lookup_cons_eq]
          by_cases hfirst : name = first.1
          · rw [if_pos hfirst, if_neg (hother hfirst), if_pos hfirst]
          · rw [if_neg hfirst, if_neg hfirst]
        rw [List.lookup_append, List.lookup_append, hsame]
        exact rel_refl _
  | @inside _ front back key entries others hstep =>
      constructor
      · simpa only [Distinct, List.map_append, List.map_cons] using hdistinct
      · intro name _
        rw [List.lookup_append, List.lookup_append, lookup_cons_eq, lookup_cons_eq]
        cases hfront : front.lookup name with
        | some value => exact .some (.same value)
        | none =>
            rw [Option.none_or, Option.none_or]
            by_cases hname : name = key
            · subst hname
              rw [if_pos rfl, if_pos rfl]
              exact .some (.table (.single hstep))
            · rw [if_neg hname, if_neg hname]
              exact rel_refl _

/-- A wider table covers the table that it is wider than. -/
theorem Widens.covers (hwidens : Widens known path table wider)
    (hdistinct : table.Distinct (known path)) : table.Covers known path wider := by
  induction hwidens with
  | refl => exact ⟨hdistinct, fun _ _ => rel_refl _⟩
  | tail _ hstep ih =>
      have hlast := hstep.covers ih.distinct
      exact ⟨hlast.distinct, fun name hname => rel_trans (ih.found name hname)
        (hlast.found name hname)⟩

end Table

end CompileServer.Toml
