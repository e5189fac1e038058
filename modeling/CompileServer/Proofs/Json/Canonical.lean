import CompileServer.Json.Draft
import Mathlib.Data.List.Induction
import Mathlib.Data.List.Nodup

/-!
# Canonical values

A value is canonical when the members of every object in it stand in the order of their
keys, each key once.  Whatever is read whole is canonical, a canonical value is its own
sorting, and sorting members with different keys keeps what is found at each key.
-/

namespace CompileServer

namespace Json

namespace Members

variable {members : Members} {key name : String} {value : Json}

/-- The keys stand in ascending order, each once. -/
def Ascending (members : Members) : Prop :=
  members.Pairwise fun first second => first.1 < second.1

/-- No key stands twice. -/
def Distinct (members : Members) : Prop :=
  (members.map Prod.fst).Nodup

theorem Ascending.distinct (hascending : members.Ascending) : members.Distinct :=
  List.pairwise_map.2 (hascending.imp String.ne_of_lt)

theorem find?_nil (name : String) : find? [] name = none :=
  rfl

theorem find?_cons (member : String × Json) (members : Members) (name : String) :
    find? (member :: members) name =
      if name = member.1 then some member.2 else members.find? name := by
  obtain ⟨key, value⟩ := member
  rw [find?, List.lookup_cons]
  by_cases hname : name = key
  · rw [if_pos hname, beq_iff_eq.2 hname]
  · rw [if_neg hname, beq_eq_false_iff_ne.2 hname]
    rfl

theorem find?_append (first second : Members) (name : String) :
    find? (first ++ second) name = (first.find? name).or (second.find? name) :=
  List.lookup_append

theorem find?_eq_none (habsent : name ∉ members.map Prod.fst) : members.find? name = none := by
  apply List.lookup_eq_none_iff.2
  intro member hmem
  exact bne_iff_ne.2 fun hname => habsent (hname ▸ List.mem_map_of_mem hmem)

theorem find?_insert (key : String) (value : Json) (members : Members) (name : String) :
    (insert key value members).find? name =
      if name = key then some value else members.find? name := by
  induction members with
  | nil => exact find?_cons (key, value) [] name
  | cons member rest ih =>
      obtain ⟨other, old⟩ := member
      simp only [insert]
      split
      · rename_i hsame
        subst hsame
        simp only [find?_cons]
        split <;> rfl
      · rename_i hother
        split
        · exact find?_cons (key, value) _ name
        · simp only [find?_cons, ih]
          by_cases hname : name = other
          · rw [if_pos hname, if_neg fun hkey => hother (hkey.symm.trans hname), if_pos hname]
          · rw [if_neg hname, if_neg hname]

theorem mem_of_mem_insert {member : String × Json} (hmem : member ∈ insert key value members) :
    member = (key, value) ∨ member ∈ members := by
  induction members with
  | nil => exact Or.inl (List.mem_singleton.1 hmem)
  | cons first rest ih =>
      simp only [insert] at hmem
      split at hmem
      · rcases List.mem_cons.1 hmem with hmem | hmem
        · exact Or.inl hmem
        · exact Or.inr (List.mem_cons_of_mem _ hmem)
      · split at hmem
        · exact List.mem_cons.1 hmem
        · rcases List.mem_cons.1 hmem with rfl | hmem
          · exact Or.inr List.mem_cons_self
          · exact (ih hmem).imp_right (List.mem_cons_of_mem _)

theorem Ascending.insert (hascending : members.Ascending) :
    (members.insert key value).Ascending := by
  induction members with
  | nil => exact List.pairwise_singleton _ _
  | cons first rest ih =>
      obtain ⟨hfirst, hrest⟩ := List.pairwise_cons.1 hascending
      simp only [Members.insert]
      split
      · rename_i hsame
        exact List.pairwise_cons.2 ⟨fun member hmem => hsame ▸ hfirst member hmem, hrest⟩
      · rename_i hother
        split
        · rename_i hlt
          refine List.pairwise_cons.2 ⟨fun member hmem => ?_, hascending⟩
          rcases List.mem_cons.1 hmem with rfl | hmem
          · exact hlt
          · exact String.lt_trans hlt (hfirst member hmem)
        · rename_i hle
          refine List.pairwise_cons.2 ⟨fun member hmem => ?_, ih hrest⟩
          rcases mem_of_mem_insert hmem with rfl | hmem
          · refine Classical.byContradiction fun hnot => hother ?_
            exact String.le_antisymm hnot hle
          · exact hfirst member hmem

/-- A member whose key comes after all others is put at the end. -/
theorem insert_of_lt (hbefore : ∀ member ∈ members, member.1 < key) :
    insert key value members = members ++ [(key, value)] := by
  induction members with
  | nil => rfl
  | cons member rest ih =>
      have hlt := hbefore member List.mem_cons_self
      have hrest := ih fun other hother => hbefore other (List.mem_cons_of_mem _ hother)
      rw [insert, if_neg (String.ne_of_lt hlt).symm, if_neg (String.lt_asymm hlt), hrest,
        List.cons_append]

theorem sorted_concat (members : Members) (member : String × Json) :
    sorted (members ++ [member]) = insert member.1 member.2 (sorted members) := by
  simp only [sorted, List.foldl_append, List.foldl_cons, List.foldl_nil]

theorem ascending_sorted (members : Members) : members.sorted.Ascending := by
  induction members using List.reverseRecOn with
  | nil => exact .nil
  | append_singleton members member ih =>
      rw [sorted_concat]
      exact ih.insert

theorem mem_of_mem_sorted {member : String × Json} (hmem : member ∈ members.sorted) :
    member ∈ members := by
  induction members using List.reverseRecOn with
  | nil => exact hmem
  | append_singleton members last ih =>
      rw [sorted_concat] at hmem
      rcases mem_of_mem_insert hmem with rfl | hmem
      · exact List.mem_append_right _ List.mem_cons_self
      · exact List.mem_append_left _ (ih hmem)

theorem sorted_of_ascending (hascending : members.Ascending) : members.sorted = members := by
  induction members using List.reverseRecOn with
  | nil => rfl
  | append_singleton members last ih =>
      obtain ⟨hmembers, -, hbefore⟩ := List.pairwise_append.1 hascending
      rw [sorted_concat, ih hmembers]
      exact insert_of_lt fun member hmem => hbefore member hmem last List.mem_cons_self

/-- Sorting keeps what is found at each key if the keys are different. -/
theorem find?_sorted (hdistinct : members.Distinct) (name : String) :
    members.sorted.find? name = members.find? name := by
  induction members using List.reverseRecOn with
  | nil => rfl
  | append_singleton members last ih =>
      obtain ⟨key, value⟩ := last
      rw [Distinct, List.map_append, List.nodup_append'] at hdistinct
      obtain ⟨hmembers, -, hdisjoint⟩ := hdistinct
      rw [sorted_concat, find?_insert, ih hmembers, find?_append, find?_cons, find?_nil]
      by_cases hname : name = key
      · have habsent : name ∉ members.map Prod.fst := by
          rw [hname]
          exact fun hmem => hdisjoint hmem List.mem_cons_self
        rw [find?_eq_none habsent, if_pos hname, Option.none_or]
      · rw [if_neg hname, if_neg hname, Option.or_none]

end Members

mutual

/-- The members of every object stand in the order of their keys, each key once. -/
def Canonical : Json → Prop
  | .arr items => CanonicalItems items
  | .obj members => Members.Ascending members ∧ CanonicalMembers members
  | _ => True

/-- Every item is canonical. -/
def CanonicalItems : List Json → Prop
  | [] => True
  | item :: rest => Canonical item ∧ CanonicalItems rest

/-- The value of every member is canonical. -/
def CanonicalMembers : List (String × Json) → Prop
  | [] => True
  | (_, value) :: rest => Canonical value ∧ CanonicalMembers rest

end

theorem canonicalMembers_iff (members : Members) :
    CanonicalMembers members ↔ ∀ member ∈ members, member.2.Canonical := by
  induction members with
  | nil => simp [CanonicalMembers]
  | cons member rest ih => simp [CanonicalMembers, ih]

/-! ## Sorting -/

mutual

/-- A canonical value is its own sorting. -/
theorem sorted_of_canonical : ∀ {value : Json}, value.Canonical → value.sorted = value
  | .arr items, hcanonical => by
      rw [sorted, sortedItems_of_canonical hcanonical]
  | .obj members, ⟨hascending, hmembers⟩ => by
      rw [sorted, sortedMembers_of_canonical hmembers, Members.sorted_of_ascending hascending]
  | .null, _ | .bool _, _ | .num _, _ | .str _, _ => rfl

theorem sortedItems_of_canonical : ∀ {items : List Json}, CanonicalItems items →
    sortedItems items = items
  | [], _ => rfl
  | _ :: _, ⟨hitem, hrest⟩ => by
      rw [sortedItems, sorted_of_canonical hitem, sortedItems_of_canonical hrest]

theorem sortedMembers_of_canonical : ∀ {members : List (String × Json)},
    CanonicalMembers members → sortedMembers members = members
  | [], _ => rfl
  | (_, _) :: _, ⟨hvalue, hrest⟩ => by
      rw [sortedMembers, sorted_of_canonical hvalue, sortedMembers_of_canonical hrest]

end

theorem sortedItems_eq_map (items : List Json) : sortedItems items = items.map sorted := by
  induction items with
  | nil => rfl
  | cons item rest ih => rw [sortedItems, ih, List.map_cons]

theorem map_fst_sortedMembers (members : Members) :
    (sortedMembers members).map Prod.fst = members.map Prod.fst := by
  induction members with
  | nil => rfl
  | cons member rest ih => rw [sortedMembers, List.map_cons, List.map_cons, ih]

theorem find?_sortedMembers (members : Members) (name : String) :
    Members.find? (sortedMembers members) name = (members.find? name).map sorted := by
  induction members with
  | nil => rfl
  | cons member rest ih =>
      obtain ⟨key, value⟩ := member
      simp only [sortedMembers, Members.find?_cons, ih]
      split <;> rfl

/-! ## Reading whole values -/

end Json

namespace Draft

open Json

mutual

/-- What is read whole is canonical. -/
theorem canonical_of_toJson? : ∀ {room : Option Nat} {draft : Draft} {value : Json},
    draft.toJson? room = some value → value.Canonical
  | _, .null, _, hread | _, .bool _, _, hread | _, .num _, _, hread | _, .str _, _, hread => by
      cases hread
      trivial
  | _, .unreadable, _, hread | _, .broken, _, hread => by cases hread
  | room, .arr items closed, value, hread => by
      simp only [toJson?] at hread
      split at hread
      · obtain ⟨found, hitems, rfl⟩ := Option.map_eq_some_iff.1 hread
        exact canonical_of_itemsToJson? hitems
      · cases hread
  | room, .obj members closed, value, hread => by
      simp only [toJson?] at hread
      split at hread
      · obtain ⟨found, hmembers, rfl⟩ := Option.map_eq_some_iff.1 hread
        have hcanonical := (canonicalMembers_iff _).1 (canonical_of_membersToJson? hmembers)
        exact ⟨Members.ascending_sorted found, (canonicalMembers_iff _).2 fun member hmem =>
          hcanonical member (Members.mem_of_mem_sorted hmem)⟩
      · cases hread

theorem canonical_of_itemsToJson? : ∀ {room : Option Nat} {drafts : List Draft}
    {items : List Json}, itemsToJson? room drafts = some items → CanonicalItems items
  | _, [], _, hread => by
      cases hread
      trivial
  | room, draft :: rest, items, hread => by
      simp only [itemsToJson?] at hread
      split at hread
      · rename_i hitem hrest
        cases hread
        exact ⟨canonical_of_toJson? hitem, canonical_of_itemsToJson? hrest⟩
      · cases hread

theorem canonical_of_membersToJson? : ∀ {room : Option Nat}
    {drafts : List (Option String × Draft)} {members : List (String × Json)},
    membersToJson? room drafts = some members → CanonicalMembers members
  | _, [], _, hread => by
      cases hread
      trivial
  | room, (key, draft) :: rest, members, hread => by
      simp only [membersToJson?] at hread
      split at hread
      · rename_i hvalue hrest
        cases hread
        exact ⟨canonical_of_toJson? hvalue, canonical_of_membersToJson? hrest⟩
      · cases hread

end

mutual

/-- Reading a known value as a whole sorts it. -/
theorem toJson?_ofJson : ∀ value : Json, (ofJson value).toJson? none = some value.sorted
  | .null | .bool _ | .num _ | .str _ => rfl
  | .arr items => by
      simp [ofJson, toJson?, itemsToJson?_ofItems items, sorted]
  | .obj members => by
      simp [ofJson, toJson?, membersToJson?_ofMembers members, sorted]

theorem itemsToJson?_ofItems : ∀ items : List Json,
    itemsToJson? none (ofItems items) = some (sortedItems items)
  | [] => rfl
  | item :: rest => by
      simp only [ofItems, itemsToJson?, toJson?_ofJson item, itemsToJson?_ofItems rest,
        sortedItems]

theorem membersToJson?_ofMembers : ∀ members : List (String × Json),
    membersToJson? none (ofMembers members) = some (sortedMembers members)
  | [] => rfl
  | (key, value) :: rest => by
      simp only [ofMembers, membersToJson?, toJson?_ofJson value, membersToJson?_ofMembers rest,
        sortedMembers]

end

mutual

/-- The end of a known value can be found. -/
theorem canSkip_ofJson : ∀ value : Json, (ofJson value).canSkip = true
  | .null | .bool _ | .num _ | .str _ => rfl
  | .arr items => canSkipItems_ofItems items
  | .obj members => canSkipMembers_ofMembers members

theorem canSkipItems_ofItems : ∀ items : List Json, canSkipItems (ofItems items) = true
  | [] => rfl
  | item :: rest => by
      rw [ofItems, canSkipItems, canSkip_ofJson item, canSkipItems_ofItems rest, Bool.and_self]

theorem canSkipMembers_ofMembers : ∀ members : List (String × Json),
    canSkipMembers (ofMembers members) = true
  | [] => rfl
  | (_, value) :: rest => by
      rw [ofMembers, canSkipMembers, canSkip_ofJson value, canSkipMembers_ofMembers rest,
        Bool.and_self]

end

/-- What is found at a key in the draft of known members. -/
theorem lookup_ofMembers (members : Members) (name : String) :
    (ofMembers members).lookup (some name) = (members.find? name).map ofJson := by
  induction members with
  | nil => rfl
  | cons member rest ih =>
      obtain ⟨key, value⟩ := member
      rw [ofMembers, List.lookup_cons, ih, Members.find?_cons]
      by_cases hname : name = key
      · rw [if_pos hname, beq_iff_eq.2 (congrArg some hname)]
        rfl
      · rw [if_neg hname, beq_eq_false_iff_ne.2 fun hsome => hname (Option.some.inj hsome)]

end Draft

namespace Json

theorem canonical_sorted (value : Json) : value.sorted.Canonical :=
  Draft.canonical_of_toJson? (Draft.toJson?_ofJson value)

end Json

end CompileServer
