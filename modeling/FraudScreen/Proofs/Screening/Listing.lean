import FraudScreen.Proofs.Network.Block
import FraudScreen.Proofs.Screening.Glob
import FraudScreen.Proofs.Text.Lines
import FraudScreen.Screening.Listing

/-!
# Lists of patterns

Whatever a line of a list looks like, the pattern that it stands for is not empty and its source spells an
expression: a literal the escaped text, a glob and a block what their modules say. So no line of a list is lost when
it is compiled, but for its size: `Scanner.compile_readLists`. Lines of up to 7300 characters are never too large
(`Pattern.isSmall_ofLine`).
-/
namespace FraudScreen.Screening

open Network (Block)
open Regex (spelled?)

/-! ## Lines -/

namespace Pattern

variable {id : UInt32} {category : String} {line : List Char}

/-- A line stands for a block, a glob or a literal text. -/
theorem ofLine_cases (id : UInt32) (category : String) (line : List Char) :
    (∃ b : Block, ofLine id category line = .make id (String.ofList b.source) category .cidr true) ∨
      ofLine id category line = .wildcard id (String.ofList line) category ∨
      ofLine id category line = .exact id (String.ofList line) category := by
  unfold ofLine
  split
  · split
    · exact .inl ⟨_, rfl⟩
    · exact .inr (.inr rfl)
  · exact .inr (.inl rfl)
  · exact .inr (.inr rfl)

theorem source_block (b : Block) : (make id (String.ofList b.source) category .cidr true).source = b.source :=
  String.toList_ofList

theorem source_wildcard : (wildcard id (String.ofList line) category).source = Glob.source line :=
  congrArg Glob.source String.toList_ofList

theorem source_exact : (exact id (String.ofList line) category).source = Regex.escape line :=
  congrArg Regex.escape String.toList_ofList

/-- The pattern of a line is not empty, and its source spells an expression. -/
theorem spells_ofLine (h : line ≠ []) :
    (ofLine id category line).text ≠ "" ∧ (spelled? (ofLine id category line).source).isSome := by
  have htext : String.ofList line ≠ "" := fun e => h (by simpa using e)
  rcases ofLine_cases id category line with ⟨b, hb⟩ | hw | he
  · rw [hb, source_block, Block.spelled?_source]
    refine ⟨fun e => ?_, rfl⟩
    have hb : b.source = [] := by simpa [make] using e
    exact List.cons_ne_nil _ _ hb
  · rw [hw, source_wildcard, Glob.spelled?_source]
    exact ⟨htext, rfl⟩
  · rw [he, source_exact, Regex.spelled?_escape h]
    exact ⟨htext, rfl⟩

/-- A line of an ordinary length stands for a pattern that is not too large. -/
theorem isSmall_ofLine (h : line ≠ []) (hlen : line.length ≤ 7300) : (ofLine id category line).IsSmall := by
  rcases ofLine_cases id category line with ⟨b, hb⟩ | hw | he
  · rw [hb, isSmall_iff (source_block b ▸ b.spelled?_source)]
    exact b.fits_whole
  · rw [hw, isSmall_iff (source_wildcard ▸ Glob.spelled?_source line)]
    exact Glob.fits_whole hlen
  · have hbytes := Text.byteLength_le line
    rw [he, isSmall_iff (source_exact ▸ Regex.spelled?_escape h), Regex.fits_text, decide_eq_true_iff]
    omega

end Pattern

/-! ## Lists -/

/-- The lines of a text without blanks around them, but for those that are empty then or start with a hash. -/
def entryLines (text : String) : List (List Char) :=
  ((Text.lines text.toList).map Text.trim).filter fun line => line ≠ [] ∧ line.head? ≠ some '#'

theorem isEntry_eq (line : List Char) : isEntry line = decide (line ≠ [] ∧ line.head? ≠ some '#') := by
  cases line with
  | nil => rfl
  | cons c cs => by_cases h : c = '#' <;> simp [isEntry, h]

theorem add_ofNat_succ (id : UInt32) (k : Nat) : id + 1 + UInt32.ofNat k = id + UInt32.ofNat (k + 1) := by
  rw [UInt32.ofNat_add, UInt32.add_assoc, UInt32.add_comm 1]
  rfl

/-- Every line that holds a pattern takes the next number. -/
theorem readLines_eq_mapIdx (category : String) (id : UInt32) (ls : List (List Char)) :
    readLines category id ls =
      (Text.trimmed isEntry ls).mapIdx fun k line => .ofLine (id + .ofNat k) category line := by
  induction ls generalizing id with
  | nil => rfl
  | cons line rest ih =>
    rw [readLines, Text.trimmed, List.map_cons, List.filter_cons]
    cases isEntry (Text.trim line) with
    | true =>
      have hfirst : id + UInt32.ofNat 0 = id := UInt32.add_zero id
      simp only [if_true, List.mapIdx_cons, ih, add_ofNat_succ, hfirst]
      rfl
    | false => exact ih id

theorem readList_eq_mapIdx (text category : String) (firstId : UInt32) :
    readList text category firstId =
      (entryLines text).mapIdx fun k line => .ofLine (firstId + .ofNat k) category line := by
  rw [readList, readLines_eq_mapIdx, Text.trimmed_splitOn rfl, Text.trimmed, entryLines, funext isEntry_eq]

/-- The patterns of a list come of its lines. -/
theorem exists_line_of_mem_readList {text category : String} {firstId : UInt32} {p : Pattern}
    (h : p ∈ readList text category firstId) :
    ∃ id, ∃ line ∈ entryLines text, line ≠ [] ∧ p = .ofLine id category line := by
  rw [readList_eq_mapIdx] at h
  obtain ⟨k, hk, rfl⟩ := List.mem_mapIdx.1 h
  have hentry := of_decide_eq_true (List.mem_filter.1 (List.getElem_mem hk)).2
  exact ⟨_, _, List.getElem_mem hk, hentry.1, rfl⟩

/-- Lists of lines of ordinary lengths hold no pattern that is too large. -/
theorem isSmall_of_mem_readList {text category : String} {firstId : UInt32} {p : Pattern}
    (h : p ∈ readList text category firstId) (hlen : ∀ line ∈ entryLines text, line.length ≤ 7300) : p.IsSmall := by
  obtain ⟨id, line, hline, hne, rfl⟩ := exists_line_of_mem_readList h
  exact Pattern.isSmall_ofLine hne (hlen line hline)

/-- **No line of a list is lost when it is compiled**: all patterns of some lists, put one after another, are compiled
with either way of scanning, as long as none of them is too large. -/
theorem Scanner.compile_readLists (s : Scanner) (lists : List (String × String × UInt32))
    (hsmall : ∀ p ∈ lists.flatMap fun (text, category, firstId) => readList text category firstId, p.IsSmall) :
    let ps := lists.flatMap fun (text, category, firstId) => readList text category firstId
    (s.compile ps).2 = ⟨s.method, ps.length, 0⟩ := by
  intro ps
  have hall : ∀ p ∈ ps, (s.method.expression? p).isSome := by
    intro p hp
    obtain ⟨⟨text, category, firstId⟩, -, hmem⟩ := List.mem_flatMap.1 hp
    obtain ⟨id, line, -, hne, rfl⟩ := exists_line_of_mem_readList hmem
    obtain ⟨htext, hs⟩ := Pattern.spells_ofLine hne
    exact Method.isSome_expression? htext hs (hsmall _ hp)
  have hsize : (Database.compile s.method ps).size = ps.length := by
    rw [Database.size_compile, List.countP_eq_length]
    exact hall
  rw [compile]
  simp only [hsize, Nat.sub_self]

/-- Lines that are blocks or look like one, globs, and literals of characters that mean something in expressions. -/
theorem Scanner.compile_readLists_brackets :
    let lists : List (String × String × UInt32) :=
      [("10.0.0.0/8\n1.2.3.4/33\n# no pattern\n\na*(b?[\\\n", "blacklist", 1),
        (" \x7b2\x7d|+?é$ ", "whitelist", 4294967295)]
    let ps := lists.flatMap fun (text, category, firstId) => readList text category firstId
    (∀ p ∈ ps, p.IsSmall) ∧ ∀ s : Scanner, (s.compile ps).2 = ⟨s.method, ps.length, 0⟩ := by
  intro lists ps
  have hlines : ∀ l ∈ lists, ∀ line ∈ entryLines l.1, line.length ≤ 7300 := by decide +kernel
  have hsmall : ∀ p ∈ ps, p.IsSmall := by
    intro p hp
    obtain ⟨l, hl, hmem⟩ := List.mem_flatMap.1 hp
    exact isSmall_of_mem_readList hmem (hlines l hl)
  exact ⟨hsmall, fun s => compile_readLists s lists hsmall⟩

end FraudScreen.Screening
