import CompileServer.Json.Record
import CompileServer.Proofs.Json.Canonical
import Mathlib.Algebra.Group.Int.Defs
import Mathlib.Algebra.Group.Nat.Defs

/-!
# Reading values back

A decoder reads a value as something if it comes to that wherever the value stands and in
whatever order the members of its objects are laid out.  What a record reads is put together
from what its members read, and so is what is known of everything that a decoder yields.
-/

namespace CompileServer

namespace Json

variable {α β : Type}

/-- What is decoded in two steps was decoded in the first. -/
theorem exists_of_bind {first : Except Failure α} {next : α → Except Failure β} {result : β}
    (hchain : (first >>= next) = .ok result) :
    ∃ value, first = .ok value ∧ next value = .ok result := by
  cases first with
  | error failure => cases hchain
  | ok value => exact ⟨value, rfl, hchain⟩

theorem exists_of_map {first : Except Failure α} {f : α → β} {result : β}
    (hmap : first.map f = .ok result) : ∃ value, first = .ok value ∧ f value = result := by
  cases first with
  | error failure => cases hmap
  | ok value =>
      cases hmap
      exact ⟨value, rfl, rfl⟩

/-! ## Layouts -/

/-- A way to lay out the members of the objects in a value. -/
structure Layout where
  place : Json → Json
  null : place .null = .null
  num (number : Number) : place (.num number) = .num number
  str (text : String) : place (.str text) = .str text
  arr (items : List Json) : place (.arr items) = .arr (items.map place)
  obj {members : Members} (hdistinct : members.Distinct) :
    ∃ placed : Members, place (.obj members) = .obj placed ∧ placed.Distinct ∧
      ∀ name, placed.find? name = (members.find? name).map place
  sorted (value : Json) : (place value).sorted = value.sorted

namespace Layout

/-- Members stay where they are. -/
def asWritten : Layout where
  place := id
  null := rfl
  num _ := rfl
  str _ := rfl
  arr _ := by rw [id, List.map_id]
  obj hdistinct := ⟨_, rfl, hdistinct, fun _ => Option.map_id.symm ▸ rfl⟩
  sorted _ := rfl

/-- Members are sorted by their keys. -/
def byKey : Layout where
  place := Json.sorted
  null := rfl
  num _ := rfl
  str _ := rfl
  arr items := by rw [Json.sorted, sortedItems_eq_map]
  obj {members} hdistinct := by
    have hsame : Members.Distinct (sortedMembers members) := by
      rwa [Members.Distinct, map_fst_sortedMembers]
    refine ⟨_, rfl, (Members.ascending_sorted _).distinct, fun name => ?_⟩
    rw [Members.find?_sorted hsame, find?_sortedMembers]
  sorted value := sorted_of_canonical (canonical_sorted value)

/-- The drafts of what is found at some names. -/
def drafts (layout : Layout) (found : String → Option Json) (name : String) : Option Draft :=
  (found name).map fun value => .ofJson (layout.place value)

end Layout

/-! ## Decoders -/

namespace Decoder

variable {decode : Decoder α} {value : Json} {x : α}

/-- The decoder reads the value as `x`, wherever it comes from and however it is laid out. -/
def Reads (decode : Decoder α) (value : Json) (x : α) : Prop :=
  ∀ (layout : Layout) (origin : Origin),
    decode ⟨origin, none⟩ (.ofJson (layout.place value)) = .ok x

theorem Reads.map (f : α → β) (hreads : Reads decode value x) :
    Reads (Decoder.map f decode) value (f x) := by
  intro layout origin
  rw [Decoder.map, hreads layout origin]
  rfl

theorem reads_text (expected text : String) : Reads (Decoder.text expected) (.str text) text := by
  intro layout origin
  rw [layout.str]
  rfl

theorem reads_whole {kind : String} {low high number : Int} (hlow : low ≤ number)
    (hhigh : number ≤ high) : Reads (whole kind low high) (.int number) number := by
  intro layout origin
  rw [Json.int, layout.num]
  simp only [Draft.ofJson, whole, hlow, hhigh, decide_true, Bool.and_self, if_true]

theorem reads_natural32 {number : Nat} (hbound : number < 2 ^ 32) :
    Reads natural32 (.nat number) number :=
  (reads_whole (Int.natCast_nonneg number) (by omega)).map Int.toNat

theorem reads_nullable {encode : α → Json} {found : Option α}
    (hreads : ∀ x ∈ found, Reads decode (encode x) x)
    (hnull : ∀ reading x, decode reading .null ≠ .ok x) :
    Reads (nullable decode) (.ofOption encode found) found := by
  intro layout origin
  cases found with
  | none =>
      rw [Json.ofOption, layout.null]
      rfl
  | some x =>
      have hread := hreads x rfl layout origin
      simp only [Json.ofOption]
      cases hdraft : Draft.ofJson (layout.place (encode x)) with
      | null =>
          rw [hdraft] at hread
          exact absurd hread (hnull _ x)
      | bool | num | str | unreadable | broken | arr | obj =>
          rw [hdraft] at hread
          simp only [nullable, hread, Except.map]

theorem items_ofItems {encode : α → Json} {found : List α} (layout : Layout) (origin : Origin)
    (hreads : ∀ x ∈ found, Reads decode (encode x) x) :
    items decode ⟨origin, none⟩ (Draft.ofItems ((found.map encode).map layout.place)) =
      .ok found := by
  induction found with
  | nil => rfl
  | cons x rest ih =>
      have hrest := ih fun other hmem => hreads other (List.mem_cons_of_mem _ hmem)
      rw [List.map_cons, List.map_cons, Draft.ofItems, items, hreads x List.mem_cons_self,
        hrest]
      rfl

theorem reads_list {encode : α → Json} {found : List α}
    (hreads : ∀ x ∈ found, Reads decode (encode x) x) :
    Reads (list decode) (.arr (found.map encode)) found := by
  intro layout origin
  have hitems := items_ofItems layout origin hreads
  rw [layout.arr, Draft.ofJson]
  simp only [list, enter, bind, Except.bind, hitems, if_true]

theorem reads_choice {variants : List (String × α)} {name : String}
    (hlookup : variants.lookup name = some x) : Reads (choice variants) (.str name) x := by
  intro layout origin
  rw [layout.str]
  simp only [Draft.ofJson, choice, variantNamed, hlookup]

theorem reads_any (hcanonical : value.Canonical) : Reads any value value := by
  intro layout origin
  simp only [any, Draft.toJson?_ofJson, layout.sorted, sorted_of_canonical hcanonical]

theorem reads_members {found : Members} (hcanonical : (Json.obj found).Canonical) :
    Reads members (.obj found) found := by
  intro layout origin
  obtain ⟨placed, hplaced, -, -⟩ := layout.obj hcanonical.1.distinct
  have hread := Draft.toJson?_ofJson (.obj placed)
  rw [← hplaced, layout.sorted, sorted_of_canonical hcanonical, hplaced] at hread
  rw [hplaced]
  simp only [Draft.ofJson, members] at hread ⊢
  rw [hread]

end Decoder

/-! ## Records -/

namespace Members

theorem find?_of_mem {members : Members} (hdistinct : members.Distinct) {member : String × Json}
    (hmem : member ∈ members) : members.find? member.1 = some member.2 := by
  induction members with
  | nil => exact absurd hmem List.not_mem_nil
  | cons first rest ih =>
      obtain ⟨hfirst, hrest⟩ := List.nodup_cons.1 hdistinct
      rw [find?_cons]
      rcases List.mem_cons.1 hmem with rfl | hmem
      · rw [if_pos rfl]
      · have hother : ¬ member.1 = first.1 := fun hsame =>
          hfirst (hsame ▸ List.mem_map_of_mem hmem)
        rw [if_neg hother, ih hrest hmem]

end Members

namespace Record

/-- The record is put together as `x` from what is found at the names of its members. -/
structure Reads (record : Record α) (found : String → Option Json) (x : α) : Prop where
  checked : ∀ {name : String} {value : Json} {entry : Entry}, found name = some value →
    record.entries.find? (fun entry => entry.name == name) = some entry →
    Decoder.Reads entry.check value ()
  present : ∀ entry ∈ record.entries, entry.presence = .required →
    (found entry.name).isSome = true
  built : ∀ (layout : Layout) (origin : Origin),
    record.build ⟨origin, none⟩ (layout.drafts found) = .ok x

variable {found : String → Option Json} {name : String} {value : Json} {x : α}
  {decode : Decoder α}

theorem reads_pure (x : α) : (pure x : Record α).Reads found x where
  checked _ hentry := by cases hentry
  present _ hmem := absurd hmem List.not_mem_nil
  built _ _ := rfl

theorem Reads.seq {make : Record (α → β)} {f : α → β} {argument : Record α}
    (hmake : make.Reads found f) (hargument : argument.Reads found x) :
    (make <*> argument).Reads found (f x) where
  checked {name value entry} hfound hentry := by
    have heither := List.find?_append.symm.trans hentry
    obtain hmember | ⟨-, hmember⟩ := Option.or_eq_some_iff.1 heither
    · exact hmake.checked hfound hmember
    · exact hargument.checked hfound hmember
  present entry hmem := by
    rcases List.mem_append.1 hmem with hmem | hmem
    · exact hmake.present entry hmem
    · exact hargument.present entry hmem
  built layout origin := by
    change (make.build _ _ >>= fun f => argument.build _ _ >>= fun x => Except.ok (f x)) = _
    rw [hmake.built layout origin, hargument.built layout origin]
    rfl

theorem Reads.map (f : α → β) {record : Record α} (hreads : record.Reads found x) :
    (f <$> record).Reads found (f x) :=
  (reads_pure f).seq hreads

theorem eq_of_find? {entries : List Entry} {only entry : Entry} (hentries : entries = [only])
    (hentry : entries.find? (fun entry => entry.name == name) = some entry) :
    only.name = name ∧ entry = only := by
  have hname := List.find?_some hentry
  have honly : entry = only := List.mem_singleton.1 (hentries ▸ List.mem_of_find?_eq_some hentry)
  rw [beq_iff_eq, honly] at hname
  exact ⟨hname, honly⟩

/-- A record with one member only, which is there. -/
theorem reads_member {presence : Presence} {check : Decoder Unit}
    {build : Reading → (String → Option Draft) → Except Failure α}
    (hfound : found name = some value) (hcheck : Decoder.Reads check value ())
    (hreads : decode.Reads value x)
    (hbuild : ∀ reading drafts draft, drafts name = some draft →
      build reading drafts = decode reading draft) :
    (Record.mk [⟨name, presence, check⟩] build).Reads found x where
  checked {other known entry} hknown hentry := by
    obtain ⟨rfl, rfl⟩ := eq_of_find? rfl hentry
    cases hfound.symm.trans hknown
    exact hcheck
  present entry hmem _ := by
    rw [List.mem_singleton.1 hmem]
    exact Option.isSome_of_eq_some hfound
  built layout origin := by
    have hdraft : layout.drafts found name = some (.ofJson (layout.place value)) := by
      rw [Layout.drafts, hfound, Option.map_some]
    exact (hbuild _ _ _ hdraft).trans (hreads layout origin)

theorem reads_required (hfound : found name = some value) (hreads : decode.Reads value x) :
    (required name decode).Reads found x :=
  reads_member hfound (hreads.map _) hreads fun _ _ _ hdraft => by simp only [hdraft]

theorem reads_defaulted {default : α} (hfound : found name = some value)
    (hreads : decode.Reads value x) : (defaulted name default decode).Reads found x :=
  reads_member hfound (hreads.map _) hreads fun _ _ _ hdraft => by simp only [hdraft]

theorem reads_nullable {held : Option α} (hfound : found name = some value)
    (hreads : (Decoder.nullable decode).Reads value held) :
    (nullable name decode).Reads found held :=
  reads_member hfound (hreads.map _) hreads fun _ _ _ hdraft => by simp only [hdraft]

theorem reads_nullable_none (habsent : found name = none) :
    (nullable name decode).Reads found none where
  checked {other known entry} hknown hentry := by
    obtain ⟨rfl, -⟩ := eq_of_find? rfl hentry
    cases habsent.symm.trans hknown
  present entry hmem hrequired := by
    rw [List.mem_singleton.1 hmem] at hrequired
    cases hrequired
  built layout origin := by
    simp only [nullable, Layout.drafts, habsent, Option.map_none]

/-- A member that is left out when it has no value. -/
theorem reads_omittable {encode : α → Json} {held : Option α}
    (hfound : found name = held.map encode)
    (hreads : ∀ x ∈ held, decode.Reads (encode x) x)
    (hnull : ∀ reading x, decode reading .null ≠ .ok x) :
    (nullable name decode).Reads found held := by
  have hmember := Decoder.reads_nullable hreads hnull
  cases held with
  | none => exact reads_nullable_none hfound
  | some x => exact reads_nullable hfound hmember

/-! ## Records from objects -/

theorem checkMembers_ofMembers {entries : List Entry} {reading : Json.Reading} {seen : List String}
    {members : Members} (hdistinct : members.Distinct)
    (hunseen : ∀ key ∈ seen, key ∉ members.map Prod.fst)
    (hchecked : ∀ member ∈ members, ∀ entry,
      entries.find? (fun entry => entry.name == member.1) = some entry →
      entry.check reading (.ofJson member.2) = .ok ()) :
    checkMembers entries reading seen (Draft.ofMembers members) = .ok () := by
  induction members generalizing seen with
  | nil => rfl
  | cons member rest ih =>
      obtain ⟨key, value⟩ := member
      obtain ⟨hkey, hrest⟩ := List.nodup_cons.1 hdistinct
      have hmore := fun other hother => hchecked other (List.mem_cons_of_mem _ hother)
      simp only [Draft.ofMembers, checkMembers]
      cases hentry : entries.find? fun entry => entry.name == key with
      | none =>
          simp only [Draft.canSkip_ofJson, if_true]
          exact ih hrest (fun other hseen hmem => hunseen other hseen (List.mem_cons_of_mem _ hmem))
            hmore
      | some entry =>
          have hnew : seen.contains key = false := by
            apply Bool.eq_false_iff.2
            intro hseen
            exact hunseen key (List.contains_iff_mem.1 hseen) List.mem_cons_self
          simp only [hnew, hchecked _ List.mem_cons_self entry hentry, bind, Except.bind]
          refine ih hrest (fun other hseen hmem => ?_) hmore
          rcases List.mem_cons.1 hseen with rfl | hseen
          · exact hkey hmem
          · exact hunseen other hseen (List.mem_cons_of_mem _ hmem)

theorem checkMissing_of_present {drafts : String → Option Draft} {entries : List Entry}
    (hpresent : ∀ entry ∈ entries, entry.presence = .required →
      (drafts entry.name).isSome = true) : checkMissing drafts entries = .ok () := by
  induction entries with
  | nil => rfl
  | cons entry rest ih =>
      have hrest := ih fun other hmem => hpresent other (List.mem_cons_of_mem _ hmem)
      rw [checkMissing, hrest, if_neg]
      simp only [Bool.and_eq_true, decide_eq_true_eq, not_and]
      intro hrequired hnone
      have hsome := hpresent entry List.mem_cons_self hrequired
      rw [Option.isNone_iff_eq_none.1 hnone] at hsome
      cases hsome

/-- A record reads an object whose members have different keys, in any layout. -/
theorem Reads.decoder {record : Record α} {members : Members} (kind : String)
    (hdistinct : members.Distinct) (hreads : record.Reads members.find? x) :
    Decoder.Reads (record.decoder kind) (.obj members) x := by
  intro layout origin
  -- Members may change their places, but what is found at each name is the same.
  obtain ⟨placed, hplaced, hplacedDistinct, hfind⟩ := layout.obj hdistinct
  have hdrafts : memberDraft (Draft.ofMembers placed) = layout.drafts members.find? := by
    funext name
    rw [memberDraft, Draft.lookup_ofMembers, hfind, Option.map_map]
    rfl
  have hmembers : checkMembers record.entries ⟨origin, none⟩ [] (Draft.ofMembers placed) =
      .ok () := by
    refine checkMembers_ofMembers hplacedDistinct (fun _ hmem => absurd hmem List.not_mem_nil) ?_
    intro member hmem entry hentry
    have hmember := Members.find?_of_mem hplacedDistinct hmem
    rw [hfind] at hmember
    obtain ⟨value, hvalue, hplace⟩ := Option.map_eq_some_iff.1 hmember
    rw [← hplace]
    exact hreads.checked hvalue hentry layout origin
  have hmissing : checkMissing (layout.drafts members.find?) record.entries = .ok () := by
    refine checkMissing_of_present fun entry hmem hrequired => ?_
    rw [Layout.drafts, Option.isSome_map]
    exact hreads.present entry hmem hrequired
  rw [hplaced]
  simp only [Draft.ofJson, Record.decoder, fromMembers, enter, bind, Except.bind, hmembers, hdrafts,
    hmissing, if_true]
  exact hreads.built layout origin

end Record

/-! ## What decoders yield -/

namespace Decoder

variable {decode : Decoder α} {P : α → Prop} {Q : β → Prop}

/-- Everything that the decoder yields has the property. -/
def Yields (decode : Decoder α) (P : α → Prop) : Prop :=
  ∀ reading draft x, decode reading draft = .ok x → P x

theorem yields_true (decode : Decoder α) : Yields decode fun _ => True :=
  fun _ _ _ _ => trivial

theorem Yields.map {f : α → β} (hyields : Yields decode P) (hf : ∀ x, P x → Q (f x)) :
    Yields (Decoder.map f decode) Q := by
  intro reading draft y hdecode
  obtain ⟨x, hx, rfl⟩ := exists_of_map hdecode
  exact hf x (hyields reading draft x hx)

theorem yields_whole (kind : String) (low high : Int) :
    Yields (whole kind low high) fun number => low ≤ number ∧ number ≤ high := by
  intro reading draft number hdecode
  cases draft with
  | num found =>
      cases found with
      | whole found =>
          simp only [whole] at hdecode
          split at hdecode
          · rename_i hbounds
            cases hdecode
            simpa using hbounds
          · cases hdecode
      | fractional => cases hdecode
  | null | bool | str | unreadable | broken | arr | obj => cases hdecode

theorem yields_natural32 : Yields natural32 (· < 2 ^ 32) :=
  (yields_whole "u32" 0 0xffffffff).map fun number hbounds => by omega

theorem yields_any : Yields any Json.Canonical := by
  intro reading draft value hdecode
  simp only [any] at hdecode
  split at hdecode
  · rename_i hread
    cases hdecode
    exact Draft.canonical_of_toJson? hread
  · cases hdecode

theorem yields_members : Yields members fun found => (Json.obj found).Canonical := by
  intro reading draft found hdecode
  cases draft with
  | obj drafts closed =>
      simp only [members] at hdecode
      split at hdecode
      · rename_i hread
        cases hdecode
        exact Draft.canonical_of_toJson? hread
      · cases hdecode
  | null | bool | num | str | unreadable | broken | arr => cases hdecode

theorem Yields.nullable (hyields : Yields decode P) :
    Yields (nullable decode) fun found => ∀ x ∈ found, P x := by
  intro reading draft found hdecode
  simp only [Decoder.nullable] at hdecode
  split at hdecode
  · cases hdecode
    exact fun _ hmem => by cases hmem
  · obtain ⟨x, hx, rfl⟩ := exists_of_map hdecode
    intro y hmem
    cases hmem
    exact hyields _ _ x hx

theorem Yields.items (hyields : Yields decode P) {reading : Json.Reading} {drafts : List Draft}
    {found : List α} (hdecode : items decode reading drafts = .ok found) : ∀ x ∈ found, P x := by
  induction drafts generalizing found with
  | nil =>
      cases hdecode
      exact fun _ hmem => absurd hmem List.not_mem_nil
  | cons draft rest ih =>
      obtain ⟨first, hfirst, hdecode⟩ := exists_of_bind hdecode
      obtain ⟨others, hothers, hdecode⟩ := exists_of_bind hdecode
      cases hdecode
      exact List.forall_mem_cons.2 ⟨hyields reading draft first hfirst, ih hothers⟩

theorem Yields.list (hyields : Yields decode P) :
    Yields (list decode) fun found => ∀ x ∈ found, P x := by
  intro reading draft found hdecode
  cases draft with
  | arr drafts closed =>
      obtain ⟨inside, -, hdecode⟩ := exists_of_bind hdecode
      obtain ⟨values, hvalues, hdecode⟩ := exists_of_bind hdecode
      cases closed with
      | false => cases hdecode
      | true =>
          cases hdecode
          exact hyields.items hvalues
  | null | bool | num | str | unreadable | broken | obj => cases hdecode

end Decoder

namespace Record

variable {P : α → Prop} {Q : β → Prop} {decode : Decoder α} {name : String}

/-- Everything that the record is put together as has the property. -/
def Yields (record : Record α) (P : α → Prop) : Prop :=
  ∀ reading drafts x, record.build reading drafts = .ok x → P x

theorem yields_pure {x : α} (hx : P x) : (pure x : Record α).Yields P := by
  intro reading drafts y hbuild
  cases hbuild
  exact hx

theorem Yields.seq {make : Record (α → β)} {argument : Record α}
    (hmake : make.Yields fun f => ∀ x, P x → Q (f x)) (hargument : argument.Yields P) :
    (make <*> argument).Yields Q := by
  intro reading drafts y hbuild
  obtain ⟨f, hf, hbuild⟩ := exists_of_bind hbuild
  obtain ⟨x, hx, hbuild⟩ := exists_of_bind hbuild
  cases hbuild
  exact hmake reading drafts f hf x (hargument reading drafts x hx)

theorem Yields.map {record : Record α} {f : α → β} (hyields : record.Yields P)
    (hf : ∀ x, P x → Q (f x)) : (f <$> record).Yields Q :=
  (yields_pure hf).seq hyields

theorem yields_required (hyields : decode.Yields P) : (required name decode).Yields P := by
  intro reading drafts x hbuild
  simp only [Record.required] at hbuild
  split at hbuild
  · exact hyields _ _ x hbuild
  · cases hbuild

theorem yields_defaulted {default : α} (hyields : decode.Yields P) (hdefault : P default) :
    (defaulted name default decode).Yields P := by
  intro reading drafts x hbuild
  simp only [Record.defaulted] at hbuild
  split at hbuild
  · exact hyields _ _ x hbuild
  · cases hbuild
    exact hdefault

theorem yields_nullable (hyields : decode.Yields P) :
    (nullable name decode).Yields fun found => ∀ x ∈ found, P x := by
  intro reading drafts found hbuild
  simp only [Record.nullable] at hbuild
  split at hbuild
  · exact hyields.nullable _ _ found hbuild
  · cases hbuild
    exact fun _ hmem => by cases hmem

/-- What a record yields comes from its members, in an object as well as in a list. -/
theorem Yields.decoder {record : Record α} (kind : String) (hyields : record.Yields P) :
    Decoder.Yields (record.decoder kind) P := by
  intro reading draft x hdecode
  cases draft with
  | obj members closed =>
      obtain ⟨inside, -, hdecode⟩ := exists_of_bind hdecode
      obtain ⟨_, -, hdecode⟩ := exists_of_bind hdecode
      cases closed with
      | false => cases hdecode
      | true =>
          obtain ⟨_, -, hbuild⟩ := exists_of_bind hdecode
          exact hyields _ _ x hbuild
  | arr elements closed =>
      obtain ⟨inside, -, hdecode⟩ := exists_of_bind hdecode
      obtain ⟨_, -, hbuild⟩ := exists_of_bind hdecode
      exact hyields _ _ x hbuild
  | null | bool | num | str | unreadable | broken => cases hdecode

end Record

end Json

end CompileServer
