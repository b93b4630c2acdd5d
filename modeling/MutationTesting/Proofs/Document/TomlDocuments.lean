import MutationTesting.Proofs.Document.TomlLines

/-! Writing TOML documents that have sections of named values, and reading them back: what is read
is what was written, section by section and entry by entry.
-/

namespace MutationTesting.Document.Toml

open Scanner

-----------------------------------------------------------------------------------------
-- Documents as text
-----------------------------------------------------------------------------------------

/-- A name and a value, with what is written for the value. -/
structure Entry where
  name : String
  text : String
  value : Value

/-- The name needs no quotation marks, and the text is read as the value. -/
structure Entry.Sound (entry : Entry) : Prop where
  bare : Bare entry.name
  spells : Spells entry.text.toList entry.value

def Entry.written (entry : Entry) : String := entry.name ++ " = " ++ entry.text ++ "\n"

/-- A section: its name and its entries in order. -/
structure Block where
  name : String
  entries : List Entry

/-- The entries of a section can be told apart. -/
structure Block.Sound (block : Block) : Prop where
  bare : Bare block.name
  entries : ∀ entry ∈ block.entries, entry.Sound
  once : (block.entries.map Entry.name).Nodup

/-- A header and the entries, each on a line of its own. -/
def Block.written (block : Block) : String :=
  "[" ++ block.name ++ "]\n" ++ String.join (block.entries.map Entry.written)

def Block.value (block : Block) : Value :=
  .table (block.entries.map fun entry => (entry.name, entry.value))

/-- Sections with blank lines between them. -/
def written (blocks : List Block) : String := "\n".intercalate (blocks.map Block.written)

-----------------------------------------------------------------------------------------
-- Reading line by line
-----------------------------------------------------------------------------------------

/-- The lines of a text lead from one state to another, with any budget that is large enough. -/
def ReadsLines (progress : Progress) (text : List Char) (last : Progress) : Prop :=
  ∀ budget, text.length < budget → linesWithin progress budget text = some (last, [])

variable {progress next last : Progress} {rest : List Char}

theorem ReadsLines.done (progress : Progress) : ReadsLines progress [] progress := by
  intro budget enough
  cases budget with
  | zero => exact absurd enough (Nat.not_lt_zero _)
  | succ budget => rfl

theorem ReadsLines.afterBreak (reads : ReadsLines progress rest last)
    : ReadsLines progress ('\n' :: rest) last := by
  intro budget enough
  cases budget with
  | zero => exact absurd enough (Nat.not_lt_zero _)
  | succ budget =>
      have others := reads budget (Nat.lt_of_succ_lt_succ enough)
      rw [linesWithin]
      exact others

/-- A character that a line can start with: no blank, no comment and no line break. -/
def StartsLine (c : Char) : Prop := isBlank c = false ∧ c ≠ '#' ∧ c ≠ '\n' ∧ c ≠ '\r'

theorem ReadsLines.afterLine {c : Char} {behind : List Char} (starts : StartsLine c)
    (reads : line progress (c :: behind) = some (next, rest))
    (shorter : rest.length ≤ behind.length) (others : ReadsLines next rest last)
    : ReadsLines progress (c :: behind) last := by
  intro budget enough
  cases budget with
  | zero => exact absurd enough (Nat.not_lt_zero _)
  | succ budget =>
      obtain ⟨nonblank, noComment, noBreak, noReturn⟩ := starts
      have blank : blanks (c :: behind) = some ((), c :: behind) :=
        blanks_of_head (by rintro d ⟨⟩; exact nonblank)
      have front : peek? (c :: behind) = some (some c, c :: behind) := rfl
      have later := others budget (Nat.lt_of_le_of_lt shorter (Nat.lt_of_succ_lt_succ enough))
      rw [linesWithin, bind_of_some blank, bind_of_some front]
      -- The branches for blank lines, comments and the end are closed by what the line starts with;
      -- only the last one reads on, so it is settled for whatever reader stands there.
      have usual {reader : Scanner Progress}
          (same : reader = line progress >>= fun progress => linesWithin progress budget)
          : reader (c :: behind) = some (last, []) := by
        rw [same, bind_of_some reads]
        exact later
      apply usual
      split
      · rename_i same
        cases same
      · rename_i same
        cases same
        exact absurd rfl noComment
      · rename_i same
        cases same
        exact absurd rfl noBreak
      · rename_i same
        cases same
        exact absurd rfl noReturn
      · rfl

-----------------------------------------------------------------------------------------
-- Reading section by section
-----------------------------------------------------------------------------------------

theorem Bare.startsLine {name : String} (bare : Bare name) {c : Char} {others : List Char}
    (letters : name.toList = c :: others)
    : StartsLine c := by
  have kind : isBare c = true := bare.letters c (by simp [letters])
  exact ⟨isBlank_of_isBare kind, ne_of_isBare kind rfl, ne_of_isBare kind rfl,
    ne_of_isBare kind rfl⟩

/-- A new name is added at the end. -/
theorem Entries.add?_of_fresh {entries : Entries} {name : String} (fresh : entries.get? name = none)
    (item : Item)
    : entries.add? name item = some (entries ++ [(name, item)]) := by
  rw [Entries.add?, fresh]
  rfl

theorem Entries.get?_concat {entries : Entries} {name other : String}
    (fresh : entries.get? other = none) (different : other ≠ name) (item : Item)
    : Entries.get? (entries ++ [(name, item)]) other = none := by
  have apart : (other == name) = false := by simpa using different
  have before : entries.lookup other = none := fresh
  simp [Entries.get?, List.lookup_append, before, List.lookup_cons, apart]

/-- The lines of entries add these to the current table, one after the other. -/
theorem ReadsLines.afterEntries {entries : List Entry} (sound : ∀ entry ∈ entries, entry.Sound)
    (once : (entries.map Entry.name).Nodup)
    (fresh : ∀ entry ∈ entries, progress.current.get? entry.name = none)
    (others
      : ReadsLines
          { progress with
            current :=
              progress.current ++ entries.map fun entry => (entry.name, .value entry.value) }
          rest last)
    : ReadsLines progress ((String.join (entries.map Entry.written)).toList ++ rest) last := by
  induction entries generalizing progress with
  | nil => simpa using others
  | cons entry more ih =>
      obtain ⟨bare, spells⟩ := sound entry (List.mem_cons_self ..)
      rw [List.map_cons, List.nodup_cons, List.mem_map, not_exists] at once
      let next : Progress :=
        { progress with current := progress.current ++ [(entry.name, .value entry.value)] }
      have adds : progress.addLine? [] entry.name entry.value = some next := by
        have own := fresh entry (List.mem_cons_self ..)
        simp [Progress.addLine?, Entries.addLine?, Entries.add?_of_fresh own, next]
      let behind := (String.join (more.map Entry.written)).toList ++ rest
      have later : ReadsLines next behind last := by
        refine ih (fun other member => sound other (List.mem_cons_of_mem _ member)) once.2 ?_ ?_
        · intro other member
          refine Entries.get?_concat (fresh other (List.mem_cons_of_mem _ member)) ?_ _
          exact fun same => once.1 other ⟨member, same⟩
        · simpa [next] using others
      have whole
          : (String.join ((entry :: more).map Entry.written)).toList ++ rest
            = entryLine entry.name entry.text.toList ++ behind := by
        simp [String.toList_join, Entry.written, entryLine, behind]
      have reads := line_entry bare spells adds behind
      cases letters : entry.name.toList with
      | nil => exact absurd letters bare.something
      | cons c others =>
          have starts := bare.startsLine letters
          rw [whole]
          rw [entryLine, letters, List.cons_append, List.cons_append] at reads ⊢
          refine .afterLine starts reads ?_ later
          simp only [List.length_append, List.length_cons]
          omega

/-- The lines of a section close the table before it and begin one with its entries. -/
theorem ReadsLines.afterBlock {block : Block} (sound : block.Sound) {closed : Entries}
    (closes : progress.close? = some closed) (fresh : closed.get? block.name = none)
    (others
      : ReadsLines
          {
            root := closed
            path := [block.name]
            current := block.entries.map fun entry => (entry.name, .value entry.value)
          }
          rest last)
    : ReadsLines progress (block.written.toList ++ rest) last := by
  have opens
      : progress.openTable? [block.name] = some { root := closed, path := [block.name] } := by
    simp [Progress.openTable?, closes, Entries.updateAt, fresh]
  let behind := (String.join (block.entries.map Entry.written)).toList ++ rest
  have reads := line_header sound.bare opens behind
  have whole : block.written.toList ++ rest = headerLine block.name ++ behind := by
    simp [Block.written, headerLine, behind]
  have later
      : ReadsLines { root := closed, path := [block.name] } behind last :=
    .afterEntries sound.entries sound.once (fun _ _ => rfl) (by simpa using others)
  rw [whole]
  have starts : StartsLine '[' := ⟨by decide, by decide, by decide, by decide⟩
  exact .afterLine starts reads (List.suffix_append _ behind).length_le later

/-- The state after a section has that section's table added when it is closed. -/
theorem close?_afterBlock {closed : Entries} {name : String} (fresh : closed.get? name = none)
    (current : Entries)
    : Progress.close? { root := closed, path := [name], current }
      = some (closed ++ [(name, .table .explicit current)]) := by
  simp [Progress.close?, Entries.updateAt, Entries.add?_of_fresh fresh]

/-- What a section becomes while a document is being read. -/
def Block.item (block : Block) : Item :=
  .table .explicit (block.entries.map fun entry => (entry.name, .value entry.value))

/-- The names of later sections stay free when a section is closed. -/
theorem get?_closed {block : Block} {more : List Block}
    (once : ((block :: more).map Block.name).Nodup) {closed : Entries}
    (fresh : ∀ other ∈ more, closed.get? other.name = none)
    : ∀ other ∈ more, Entries.get? (closed ++ [(block.name, block.item)]) other.name = none := by
  rw [List.map_cons, List.nodup_cons, List.mem_map, not_exists] at once
  intro other member
  refine Entries.get?_concat (fresh other member) (fun same => ?_) block.item
  exact once.1 other ⟨member, same⟩

/-- Sections with a blank line in front of each are read one after the other. -/
theorem readsLines_blocks {blocks : List Block} (sound : ∀ block ∈ blocks, block.Sound)
    (once : (blocks.map Block.name).Nodup) {closed : Entries}
    (closes : progress.close? = some closed)
    (fresh : ∀ block ∈ blocks, closed.get? block.name = none)
    : ∃ last,
        ReadsLines progress (blocks.flatMap fun block => '\n' :: block.written.toList) last
        ∧ last.close? = some (closed ++ blocks.map fun block => (block.name, block.item)) := by
  induction blocks generalizing progress closed with
  | nil => exact ⟨progress, .done progress, by simpa using closes⟩
  | cons block more ih =>
      have own := fresh block (List.mem_cons_self ..)
      have apart :=
        get?_closed once fun other member => fresh other (List.mem_cons_of_mem _ member)
      obtain ⟨last, reads, closesToo⟩ :=
        ih (fun other member => sound other (List.mem_cons_of_mem _ member)) once.of_cons
          (close?_afterBlock own _) apart
      refine ⟨last, ?_, by simpa [Block.item] using closesToo⟩
      rw [List.flatMap_cons, List.cons_append]
      exact .afterBreak (.afterBlock (sound block (List.mem_cons_self ..)) closes own reads)

theorem toList_written (block : Block) (more : List Block)
    : (written (block :: more)).toList
      = block.written.toList ++ more.flatMap fun block => '\n' :: block.written.toList := by
  induction more generalizing block with
  | nil => simp [written]
  | cons next more ih =>
      have rest := ih next
      unfold written at rest ⊢
      rw [List.map_cons, List.map_cons, String.intercalate_cons_cons, ← List.map_cons,
        String.toList_append, rest]
      simp

theorem entriesToValues_eq (entries : Entries)
    : entriesToValues entries = entries.map fun entry => (entry.1, entry.2.toValue) := by
  induction entries with
  | nil => rfl
  | cons entry rest ih => rw [entriesToValues, ih, List.map_cons]

theorem Block.toValue_item (block : Block) : block.item.toValue = block.value := by
  simp [Block.item, Block.value, Item.toValue, entriesToValues_eq]

/-- A text without a mark in front is read from its first character on. -/
theorem read?_of_unmarked {text : String} (unmarked : ∀ c ∈ text.toList.head?, c ≠ byteOrderMark)
    : read? text
      = ((linesWithin {} (text.toList.length + 1)).run? text.toList).bind fun progress =>
          progress.close?.bind fun entries => some (entriesToValues entries) := by
  unfold read?
  cases letters : text.toList with
  | nil => rfl
  | cons first rest =>
      have different : first ≠ byteOrderMark := unmarked first (by simp [letters])
      dsimp only
      rw [if_neg different]
      rfl

/-- A document is read as it was written. -/
theorem read?_written {blocks : List Block} (sound : ∀ block ∈ blocks, block.Sound)
    (once : (blocks.map Block.name).Nodup)
    : read? (written blocks) = some (blocks.map fun block => (block.name, block.value)) := by
  obtain ⟨last, reads, closes⟩
      : ∃ last,
          ReadsLines {} (written blocks).toList last
          ∧ last.close? = some (blocks.map fun block => (block.name, block.item)) := by
    cases blocks with
    | nil => exact ⟨{}, .done {}, rfl⟩
    | cons block more =>
        have nothing (name : String) : Entries.get? [] name = none := rfl
        have apart := get?_closed once fun other _ => nothing other.name
        have closed :=
          close?_afterBlock (nothing block.name)
            (block.entries.map fun entry => (entry.name, .value entry.value))
        obtain ⟨last, reads, closes⟩ :=
          readsLines_blocks (fun other member => sound other (List.mem_cons_of_mem _ member))
            once.of_cons closed apart
        refine ⟨last, ?_, by simpa [Block.item] using closes⟩
        rw [toList_written]
        exact .afterBlock (sound block (List.mem_cons_self ..)) rfl rfl reads
  have unmarked : ∀ c ∈ (written blocks).toList.head?, c ≠ byteOrderMark := by
    cases blocks with
    | nil => simp [written]
    | cons block more =>
        rw [toList_written]
        rintro c front rfl
        simp [Block.written] at front
        exact absurd front (by decide)
  have whole := reads ((written blocks).toList.length + 1) (Nat.lt_succ_self _)
  rw [read?_of_unmarked unmarked]
  simp [run?, whole, closes, entriesToValues_eq, Block.toValue_item]

end MutationTesting.Document.Toml
