import CompileServer.Proofs.Toml.Lines

/-!
# Reading documents back

A printed document is read back as the table that it was printed from.  The sections of a table
add all of it at its place, whether the table has a header of its own or is passed through by
the headers of the tables inside it.
-/

namespace CompileServer.Toml

/-! ## Sections -/

/-- Sections with a blank line before each. -/
def spaced (sections : List (List Char)) : List Char :=
  sections.flatMap ('\n' :: ·)

theorem spaced_append (sections others : List (List Char)) :
    spaced (sections ++ others) = spaced sections ++ spaced others :=
  List.flatMap_append

theorem entriesOf_append (nodes others : Nodes) :
    entriesOf (nodes ++ others) = entriesOf nodes ++ entriesOf others := by
  induction nodes with
  | nil => rfl
  | cons entry rest ih =>
      obtain ⟨key, node⟩ := entry
      rw [List.cons_append, entriesOf, entriesOf, ih, List.cons_append]

theorem entriesOf_values (lines : Table) :
    entriesOf (lines.map fun entry => (entry.1, Node.value entry.2)) = lines := by
  induction lines with
  | nil => rfl
  | cons entry rest ih =>
      rw [List.map_cons, entriesOf, ih]
      rfl

/-- The entries of tables. -/
def nested (tables : List (String × Table)) : Table :=
  tables.map fun entry => (entry.1, .table entry.2)

/-- The sections of a table that is new at a place add it there. -/
def ReadsTable (room : Nat) (table : Table) : Prop :=
  ∀ {path : List String} {nodes entries : Nodes} {plug : Nodes → Nodes} (name : String)
    (header : List String), Focus path nodes entries plug → entries.lookup name = none →
    path.length + room ≤ nestingLimit →
    ∃ origin made header', entriesOf made = table ∧
      Reads (spaced (sectionsOf (path ++ [name]) (.table table))) ⟨nodes, header⟩
        ⟨plug (entries ++ [(name, .table origin made)]), header'⟩

/-- The sections of tables at one place add them there.  If there is none, the place has to
exist. -/
theorem reads_tables {path : List String} {nodes entries : Nodes} {plug : Nodes → Nodes}
    {room : Nat} {tables : List (String × Table)}
    (hread : ∀ entry ∈ tables, ReadsTable room entry.2)
    (hfocus : Focus path nodes entries plug) (hmade : tables = [] → nodes = plug entries)
    (hkeys : (tables.map Prod.fst).Nodup)
    (hnew : ∀ entry ∈ tables, entries.lookup entry.1 = none)
    (hroom : path.length + room ≤ nestingLimit) (header : List String) :
    ∃ made header', entriesOf made = nested tables ∧
      Reads (spaced (sectionsOfEntries path (nested tables))) ⟨nodes, header⟩
        ⟨plug (entries ++ made), header'⟩ := by
  induction tables generalizing nodes entries header with
  | nil =>
      refine ⟨[], header, rfl, ?_⟩
      rw [hmade rfl, List.append_nil]
      exact .refl _
  | cons entry tables ih =>
      obtain ⟨hfirst, hrest⟩ := List.nodup_cons.1 hkeys
      obtain ⟨hentry, hothers⟩ := List.forall_mem_cons.1 hnew
      obtain ⟨hfirstRead, hread⟩ := List.forall_mem_cons.1 hread
      obtain ⟨origin, made, between, hmade, hreads⟩ :=
        hfirstRead entry.1 header hfocus hentry hroom
      obtain ⟨others, last, hothersMade, hmore⟩ := ih hread (hfocus.next _) (fun _ => rfl) hrest
        (Nodes.lookup_added (.table origin made) hothers hfirst) between
      refine ⟨(entry.1, .table origin made) :: others, last, ?_, ?_⟩
      · rw [entriesOf, hothersMade, Node.toValue, hmade]
        rfl
      · have hsections : sectionsOfEntries path (nested (entry :: tables)) =
            sectionsOf (path ++ [entry.1]) (.table entry.2) ++
              sectionsOfEntries path (nested tables) := rfl
        rw [List.append_assoc] at hmore
        rw [hsections, spaced_append]
        exact hreads.trans hmore

/-- Values that get no sections have none. -/
theorem sectionsOfEntries_lines {lines : Table} (path : List String) (more : Table)
    (hlines : ∀ entry ∈ lines, entry.2.isTable = false) :
    sectionsOfEntries path (lines ++ more) = sectionsOfEntries path more := by
  induction lines with
  | nil => rfl
  | cons entry lines ih =>
      obtain ⟨hentry, hothers⟩ := List.forall_mem_cons.1 hlines
      obtain ⟨key, value⟩ := entry
      have hnone : sectionsOf (path ++ [key]) value = [] := by
        cases value with
        | table => cases hentry
        | str | int | float | bool | moment | arr => rfl
      rw [List.cons_append, sectionsOfEntries, hnone, List.nil_append, ih hothers]

theorem any_nested (tables : List (String × Table)) :
    ((nested tables).any fun entry => !entry.2.isTable) = false := by
  refine List.any_eq_false.2 fun entry hmem => ?_
  obtain ⟨table, -, rfl⟩ := List.mem_map.1 hmem
  exact Bool.false_ne_true

theorem writeLines_append {lines : Table} (tables : List (String × Table))
    (hlines : ∀ entry ∈ lines, entry.2.isTable = false) :
    writeLines (lines ++ nested tables) = lines.flatMap writeLine := by
  have hkept : lines.filter (fun entry => !entry.2.isTable) = lines :=
    List.filter_eq_self.2 fun entry hmem => by rw [hlines entry hmem, Bool.not_false]
  have hdropped : (nested tables).filter (fun entry => !entry.2.isTable) = [] :=
    List.filter_eq_nil_iff.2 (List.any_eq_false.1 (any_nested tables))
  rw [writeLines, List.filter_append, hkept, hdropped, List.append_nil]
  rfl

/-- A table that a document can hold: its keys differ, the values with lines of their own come
first, and its tables are such tables again, at most so many inside each other. -/
inductive Printable : Nat → Table → Prop where
  | mk {room : Nat} {lines : Table} {tables : List (String × Table)}
      (hkeys : ((lines.map Prod.fst) ++ tables.map Prod.fst).Nodup)
      (hlines : ∀ entry ∈ lines, Legible nestingLimit entry.2 ∧ entry.2.isTable = false)
      (htables : ∀ entry ∈ tables, Printable room entry.2) :
      Printable (room + 1) (lines ++ nested tables)

/-- A table that holds nothing but tables has no section of its own. -/
theorem sectionsOf_nested {tables : List (String × Table)} (hsome : tables ≠ [])
    (path : List String) :
    sectionsOf path (.table (nested tables)) = sectionsOfEntries path (nested tables) := by
  have hnone : (nested tables).isEmpty = false := by
    cases tables with
    | nil => exact absurd rfl hsome
    | cons => rfl
  rw [sectionsOf, writeSection, hnone, any_nested, Bool.or_self, if_neg Bool.false_ne_true,
    List.nil_append]

theorem sectionsOf_lines {lines : Table} {tables : List (String × Table)}
    (hlines : ∀ entry ∈ lines, entry.2.isTable = false) (hown : lines ≠ [] ∨ tables = [])
    (path : List String) :
    sectionsOf path (.table (lines ++ nested tables)) =
      ((if path.isEmpty then [] else writeHeader path) ++ lines.flatMap writeLine) ::
        sectionsOfEntries path (nested tables) := by
  have hsection : ((lines ++ nested tables).isEmpty ||
      (lines ++ nested tables).any fun entry => !entry.2.isTable) = true := by
    cases lines with
    | nil =>
        obtain rfl := hown.resolve_left (absurd rfl)
        rfl
    | cons entry lines =>
        rw [List.cons_append, List.any_cons, hlines entry List.mem_cons_self]
        rfl
  rw [sectionsOf, writeSection, if_pos hsection, writeLines_append tables hlines,
    sectionsOfEntries_lines path _ hlines]
  rfl

/-- The keys of tables are new among the values with lines. -/
theorem lookup_values {lines : Table} {tables : List (String × Table)}
    (hkeys : ((lines.map Prod.fst) ++ tables.map Prod.fst).Nodup) :
    ∀ entry ∈ tables,
      (lines.map fun line => (line.1, Node.value line.2)).lookup entry.1 = none := by
  intro entry hmem
  refine List.lookup_eq_none_iff.2 fun other hother => ?_
  obtain ⟨line, hline, rfl⟩ := List.mem_map.1 hother
  have hdifferent := (List.nodup_append.1 hkeys).2.2 line.1 (List.mem_map_of_mem hline) entry.1
    (List.mem_map_of_mem hmem)
  exact bne_iff_ne.2 hdifferent.symm

theorem Printable.readsTable {room : Nat} {table : Table} (hprintable : Printable room table) :
    ReadsTable room table := by
  -- With a header the place exists before its tables are read; without one, the header of the
  -- first table passes through it and so makes it.
  induction hprintable with
  | @mk room lines tables hkeys hlines htables ih =>
      intro path nodes entries plug name header hfocus hnew hroom
      have hplain : ∀ entry ∈ lines, entry.2.isTable = false := fun entry hmem =>
        (hlines entry hmem).2
      obtain ⟨hlineKeys, htableKeys, -⟩ := List.nodup_append.1 hkeys
      have hdeeper : (path ++ [name]).length + room ≤ nestingLimit := by
        rw [List.length_append, List.length_singleton]
        omega
      by_cases hown : lines ≠ [] ∨ tables = []
      · have hopened := hfocus.table hnew .opened []
        have hheader := reads_header hfocus hnew (by omega) header
        have hvalues := reads_lines hopened rfl hlineKeys (fun _ _ => List.lookup_nil)
          fun entry hmem => (hlines entry hmem).1
        obtain ⟨made, last, hmade, hreads⟩ := reads_tables ih (hopened.next _) (fun _ => rfl)
          htableKeys (lookup_values hkeys) hdeeper (path ++ [name])
        refine ⟨.opened, lines.map (fun line => (line.1, .value line.2)) ++ made, last, ?_, ?_⟩
        · rw [entriesOf_append, entriesOf_values, hmade]
        · have hpath : (path ++ [name]).isEmpty = false := by
            cases path <;> rfl
          rw [sectionsOf_lines hplain hown, hpath, if_neg Bool.false_ne_true]
          exact ((Reads.blank _).trans (hheader.trans hvalues)).trans hreads
      · rw [not_or, not_not] at hown
        obtain ⟨rfl, hsome⟩ := hown
        obtain ⟨made, last, hmade, hreads⟩ := reads_tables ih (hfocus.passed hnew)
          (fun hnone => absurd hnone hsome) htableKeys (fun _ _ => List.lookup_nil) hdeeper header
        refine ⟨.passed, made, last, hmade, ?_⟩
        rw [List.nil_append, sectionsOf_nested hsome]
        exact hreads

/-! ## Documents -/

/-- The sections of a whole document, each after a blank line, add all of its table. -/
theorem Printable.reads {room : Nat} {table : Table} (hprintable : Printable room table)
    (hroom : room ≤ nestingLimit) :
    ∃ made header, entriesOf made = table ∧
      Reads (spaced (sectionsOf [] (.table table))) ⟨[], []⟩ ⟨made, header⟩ := by
  cases hprintable with
  | @mk room lines tables hkeys hlines htables =>
      have hplain : ∀ entry ∈ lines, entry.2.isTable = false := fun entry hmem =>
        (hlines entry hmem).2
      have hread : ∀ entry ∈ tables, ReadsTable room entry.2 := fun entry hmem =>
        (htables entry hmem).readsTable
      obtain ⟨hlineKeys, htableKeys, -⟩ := List.nodup_append.1 hkeys
      have hvalues := reads_lines (Focus.root []) rfl hlineKeys (fun _ _ => List.lookup_nil)
          fun entry hmem => (hlines entry hmem).1
      obtain ⟨made, last, hmade, hreads⟩ := reads_tables hread ((Focus.root []).next _)
        (fun _ => rfl) htableKeys (lookup_values hkeys) (by simpa using Nat.le_of_succ_le hroom) []
      refine ⟨lines.map (fun line => (line.1, .value line.2)) ++ made, last, ?_, ?_⟩
      · rw [entriesOf_append, entriesOf_values, hmade]
      · by_cases hown : lines ≠ [] ∨ tables = []
        · rw [sectionsOf_lines hplain hown]
          exact ((Reads.blank _).trans hvalues).trans hreads
        · rw [not_or, not_not] at hown
          obtain ⟨rfl, hsome⟩ := hown
          rw [List.nil_append, sectionsOf_nested hsome]
          exact hreads

theorem intercalate_spaced (first : List Char) (sections : List (List Char)) :
    ['\n'].intercalate (first :: sections) = first ++ spaced sections := by
  induction sections generalizing first with
  | nil => simp [spaced, List.intercalate]
  | cons next sections ih =>
      have hjoined : ['\n'].intercalate (first :: next :: sections) =
          first ++ '\n' :: ['\n'].intercalate (next :: sections) := by
        simp [List.intercalate]
      rw [hjoined, ih]
      rfl

theorem Reads.complete {text : List Char} {before after : Reading}
    (hreads : Reads text before after) :
    scanLinesFrom (text.length + 1) before text = some after.nodes := by
  obtain ⟨steps, hsteps, hreads⟩ := hreads
  have hread := hreads (text.length - steps + 1) []
  have hfuel : text.length - steps + 1 + steps = text.length + 1 := by omega
  rw [hfuel, List.append_nil] at hread
  rw [hread]
  rfl

/-! No document starts with the mark of its byte order. -/

theorem head?_writeLines (entries : Table) : (writeLines entries).head? ≠ some '\ufeff' := by
  unfold writeLines
  cases entries.filter fun entry => !entry.2.isTable with
  | nil => exact nofun
  | cons entry rest =>
      obtain ⟨c, more, hkey, hfirst⟩ := exists_writeKey_cons entry.1
      have hmark : c ≠ '\ufeff' := by
        rcases hfirst with hfirst | rfl
        · exact ne_of_class hfirst rfl
        · decide
      rw [List.flatMap_cons, hkey]
      exact fun hsome => hmark (Option.some.inj hsome)

mutual

theorem head?_of_mem_sectionsOf (path : List String) (value : Value) :
    ∀ written ∈ sectionsOf path value, written.head? ≠ some '\ufeff' := by
  cases value with
  | table entries =>
      intro written hmem
      rw [sectionsOf] at hmem
      rcases List.mem_append.1 hmem with hmem | hmem
      · rw [writeSection] at hmem
        split at hmem
        · rw [List.mem_singleton.1 hmem]
          split
          · exact head?_writeLines entries
          · exact fun hsome => absurd (Option.some.inj hsome) (by decide)
        · cases hmem
      · exact head?_of_mem_sectionsOfEntries path entries written hmem
  | str | int | float | bool | moment | arr => exact fun _ hmem => absurd hmem List.not_mem_nil

theorem head?_of_mem_sectionsOfEntries (path : List String) (entries : Table) :
    ∀ written ∈ sectionsOfEntries path entries, written.head? ≠ some '\ufeff' := by
  cases entries with
  | nil => exact fun _ hmem => absurd hmem List.not_mem_nil
  | cons entry rest =>
      intro written hmem
      rw [sectionsOfEntries] at hmem
      rcases List.mem_append.1 hmem with hmem | hmem
      · exact head?_of_mem_sectionsOf _ entry.2 written hmem
      · exact head?_of_mem_sectionsOfEntries path rest written hmem

end

theorem head?_print (table : Table) : (print table).toList.head? ≠ some '\ufeff' := by
  rw [print, String.toList_ofList]
  cases hsections : sectionsOf [] (.table table) with
  | nil => exact nofun
  | cons first sections =>
      have hfirst := head?_of_mem_sectionsOf [] (.table table) first
        (hsections ▸ List.mem_cons_self)
      rw [intercalate_spaced]
      cases first with
      | cons c more => exact hfirst
      | nil =>
          cases sections with
          | nil => exact nofun
          | cons next sections => exact fun hsome => absurd (Option.some.inj hsome) (by decide)

theorem dropMark_eq_self {cs : List Char} (hfirst : cs.head? ≠ some '\ufeff') :
    dropMark cs = cs := by
  unfold dropMark
  split
  · exact absurd rfl hfirst
  · rfl

def blankLines (count : Nat) : String :=
  String.ofList (List.replicate count '\n')

theorem append_blankLines_zero (text : String) : text ++ blankLines 0 = text :=
  String.append_empty

/-- A printed document is read back as the table that it was printed from, with any number of
blank lines after it. -/
theorem Printable.parse?_print {room : Nat} {table : Table} (hprintable : Printable room table)
    (hroom : room ≤ nestingLimit) (blanks : Nat) :
    parse? (print table ++ blankLines blanks) = some table := by
  obtain ⟨made, header, hmade, hreads⟩ := hprintable.reads hroom
  have hread := (hreads.trans (.blanks _ blanks)).complete
  have htext : (print table ++ blankLines blanks).toList =
      (print table).toList ++ List.replicate blanks '\n' := by
    rw [String.toList_append, blankLines, String.toList_ofList]
  have hmark : ((print table).toList ++ List.replicate blanks '\n').head? ≠ some '\ufeff' := by
    have hhead := head?_print table
    cases hcs : (print table).toList with
    | nil =>
        cases blanks with
        | zero => exact nofun
        | succ blanks => exact fun hsome => absurd (Option.some.inj hsome) (by decide)
    | cons c more =>
        rw [hcs] at hhead
        exact hhead
  have hnodes : scanLinesFrom (((print table).toList ++ List.replicate blanks '\n').length + 1)
      ⟨[], []⟩ ((print table).toList ++ List.replicate blanks '\n') = some made := by
    rw [print, String.toList_ofList]
    cases hsections : sectionsOf [] (.table table) with
    | nil =>
        rw [hsections] at hread
        exact hread
    | cons first sections =>
        rw [hsections] at hread
        rw [intercalate_spaced]
        exact hread
  simp only [parse?, htext, dropMark_eq_self hmark, hnodes, Option.map_some, hmade]

/-! ## Documents with less in them -/

theorem pruneEntries_lines (gone : List String → Bool) (path : List String) {lines : Table}
    (more : Table) (hlines : ∀ entry ∈ lines, entry.2.isTable = false) :
    pruneEntries gone path (lines ++ more) =
      lines.filter (fun entry => !gone (path ++ [entry.1])) ++ pruneEntries gone path more := by
  induction lines with
  | nil => rfl
  | cons entry lines ih =>
      obtain ⟨hentry, hothers⟩ := List.forall_mem_cons.1 hlines
      obtain ⟨key, value⟩ := entry
      have hkept : value.prune gone (path ++ [key]) = value := by
        cases value with
        | table => cases hentry
        | str | int | float | bool | moment | arr => rfl
      rw [List.cons_append, pruneEntries, hkept, ih hothers, List.filter_cons]
      cases gone (path ++ [key]) <;> rfl

theorem pruneEntries_nested (gone : List String → Bool) (path : List String)
    (tables : List (String × Table)) :
    pruneEntries gone path (nested tables) =
      nested ((tables.filter fun entry => !gone (path ++ [entry.1])).map fun entry =>
        (entry.1, pruneEntries gone (path ++ [entry.1]) entry.2)) := by
  induction tables with
  | nil => rfl
  | cons entry tables ih =>
      obtain ⟨key, table⟩ := entry
      rw [List.filter_cons]
      change (if gone (path ++ [key]) = true then pruneEntries gone path (nested tables)
        else (key, Value.prune gone (path ++ [key]) (.table table)) ::
          pruneEntries gone path (nested tables)) = _
      rw [ih]
      cases gone (path ++ [key]) <;> rfl

/-- Without some of its entries a table can still be printed. -/
theorem Printable.prune {room : Nat} {table : Table} (hprintable : Printable room table)
    (gone : List String → Bool) (path : List String) :
    Printable room (pruneEntries gone path table) := by
  induction hprintable generalizing path with
  | @mk room lines tables hkeys hlines htables ih =>
      rw [pruneEntries_lines gone path _ fun entry hmem => (hlines entry hmem).2,
        pruneEntries_nested]
      refine .mk ?_ ?_ ?_
      · rw [List.map_map]
        exact hkeys.sublist ((List.filter_sublist.map _).append (List.filter_sublist.map _))
      · exact fun entry hmem => hlines entry (List.mem_filter.1 hmem).1
      · intro entry hmem
        obtain ⟨other, hother, rfl⟩ := List.mem_map.1 hmem
        exact ih other (List.mem_filter.1 hother).1 _

end CompileServer.Toml
