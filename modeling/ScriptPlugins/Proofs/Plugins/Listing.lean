import ScriptPlugins.Plugins.Listing
import ScriptPlugins.Proofs.Text.Columns
import ScriptPlugins.Proofs.Text.Pieces

/-!
# Listings that line up

The table of a listing has a line for the heading and one for each script, and all of them show
their four cells in the same four places. Names and paths may be anything that fits on a line: wide
or narrow, empty, or blank as far as one can see.
-/

namespace ScriptPlugins.Listing

open Text

variable {entries : List Entry} {text : String}

theorem length_rows (entries : List Entry) :
    ∀ cells ∈ entries.map row, cells.length = heading.length := by
  intro cells hrow
  obtain ⟨entry, -, rfl⟩ := List.mem_map.1 hrow
  rfl

theorem table?_eq_some_iff (hne : entries ≠ []) : table? entries = some text ↔
    (∀ entry ∈ entries, ∀ cell ∈ row entry, cell.length ≤ Columns.widthLimit) ∧
      String.ofList (join '\n' (Columns.table heading (entries.map row))) = text := by
  have hheading : ∀ cell ∈ heading, cell.length ≤ Columns.widthLimit := by decide
  rw [table?, if_neg (by rwa [List.isEmpty_iff]), Option.map_eq_some_iff]
  simp only [Columns.table?_eq_some_iff (length_rows entries), List.forall_mem_cons,
    List.forall_mem_map, and_assoc, exists_and_left, exists_eq_left']
  exact and_iff_right hheading

theorem pieces_table (hcells : ∀ entry ∈ entries, ∀ cell ∈ row entry, '\n' ∉ cell) :
    pieces '\n' (join '\n' (Columns.table heading (entries.map row))) =
      Columns.table heading (entries.map row) := by
  apply pieces_join
  · exact List.cons_ne_nil _ _
  apply Columns.feed_notMem_table (length_rows entries)
  rw [List.forall_mem_cons, List.forall_mem_map]
  exact ⟨by decide, hcells⟩

/-- **Tables line up.** If no cell is too long there is a table, and only then. It has a line for the
heading and one for each entry, in order, and the four columns start at the same places in all of
them. -/
theorem table_aligned (hne : entries ≠ [])
    (hcells : ∀ entry ∈ entries, ∀ cell ∈ row entry, '\n' ∉ cell) :
    ((∃ text, table? entries = some text) ↔
      ∀ entry ∈ entries, ∀ cell ∈ row entry, cell.length ≤ Columns.widthLimit) ∧
    ∀ text, table? entries = some text →
      ∃ second third fourth, 0 < second ∧ second < third ∧ third < fourth ∧
        List.Forall₂ (Columns.Aligned [0, second, third, fourth]) (heading :: entries.map row)
          (pieces '\n' text.toList) := by
  constructor
  · simp only [table?_eq_some_iff hne, exists_and_left, exists_eq', and_true]
  intro text htable
  obtain ⟨-, rfl⟩ := (table?_eq_some_iff hne).1 htable
  have hrows := length_rows entries
  have haligned := Columns.aligned_table hrows
  have hlength := (Columns.fits_widths hrows List.mem_cons_self).length_eq
  rw [String.toList_ofList, pieces_table hcells]
  match hwidths : Columns.widths heading (entries.map row), hlength with
  | [first, second, third, fourth], _ =>
      rw [hwidths] at haligned
      exact ⟨first + 2, first + 2 + (second + 2), first + 2 + (second + 2 + (third + 2)), by omega,
        by omega, by omega, haligned⟩

/-- Letters beyond ASCII, a cell that ends in a blank, and an entry of which nothing can be seen. -/
theorem table_aligned_blank :
    let entries : List Entry :=
      [⟨"org.åcme.plügin", "Plügin", "A\u3000", "a b"⟩, ⟨"", " ", "", "\t"⟩]
    let lines := ["ID               CLASS   COMPILED TYPE  SOURCE",
      "org.åcme.plügin  Plügin  A\u3000             a b", ""].map String.toList
    entries ≠ [] ∧ (∀ entry ∈ entries, ∀ cell ∈ row entry, '\n' ∉ cell) ∧
      table? entries = some (String.ofList (join '\n' lines)) ∧
      ∃ second third fourth, 0 < second ∧ second < third ∧ third < fourth ∧
        List.Forall₂ (Columns.Aligned [0, second, third, fourth]) (heading :: entries.map row)
          lines := by
  intro entries lines
  have hne : entries ≠ [] := List.cons_ne_nil _ _
  have hcells : ∀ entry ∈ entries, ∀ cell ∈ row entry, '\n' ∉ cell := by decide
  have hlines : Columns.table heading (entries.map row) = lines := by decide +kernel
  have htable : table? entries = some (String.ofList (join '\n' lines)) := by
    rw [table?_eq_some_iff hne, hlines]
    exact ⟨by decide, rfl⟩
  have haligned := (table_aligned hne hcells).2 _ htable
  rw [String.toList_ofList, ← hlines, pieces_table hcells, hlines] at haligned
  exact ⟨hne, hcells, htable, haligned⟩

/-- One character too many, and there is no table. -/
theorem table?_eq_none_of_long :
    let entries : List Entry :=
      [⟨"a", "A", "A", String.ofList (List.replicate (Columns.widthLimit + 1) 'x')⟩]
    entries ≠ [] ∧ (∀ entry ∈ entries, ∀ cell ∈ row entry, '\n' ∉ cell) ∧
      table? entries = none := by
  intro entries
  have hne : entries ≠ [] := List.cons_ne_nil _ _
  refine ⟨hne, ?_, ?_⟩
  · simp [entries, row]
  · rw [Option.eq_none_iff_forall_ne_some]
    intro text htable
    obtain ⟨hshort, -⟩ := (table?_eq_some_iff hne).1 htable
    have hlong := hshort _ List.mem_cons_self
      (List.replicate (Columns.widthLimit + 1) 'x') (by simp [row])
    rw [List.length_replicate] at hlong
    omega

end ScriptPlugins.Listing
