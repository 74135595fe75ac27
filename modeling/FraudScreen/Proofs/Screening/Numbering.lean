import FraudScreen.Proofs.Screening.Freshness
import FraudScreen.Proofs.Screening.Listing

/-!
# Numbers of patterns

A list gives every line that holds a pattern the next number, whatever the line stands for, so the list of a text and
of what follows it is read in one go or one after the other: `readList_listed`. A screener loads two lists numbered
through from 1, and whatever patterns are added between loads, the number it would give next is greater than all that
are in use: `Screener.nextId_unused`.
-/
namespace FraudScreen.Screening

open Network (Block)
open Text (lines trimmed)

/-! ## What a line stands for -/

/-- The line looks like a block of addresses. -/
def LooksLikeBlock (line : List Char) : Prop := '/' ∈ line ∧ ('.' ∈ line ∨ ':' ∈ line)

theorem Kind.ofLine_cases (line : List Char) :
    (LooksLikeBlock line ∧ ofLine line = .cidr) ∨
      ¬ LooksLikeBlock line ∧ ('*' ∈ line ∧ ofLine line = .wildcard ∨ '*' ∉ line ∧ ofLine line = .exact) := by
  have hblock : (line.contains '/' && (line.contains '.' || line.contains ':')) = true ↔ LooksLikeBlock line := by
    simp [LooksLikeBlock]
  by_cases hb : LooksLikeBlock line
  · exact .inl ⟨hb, if_pos (hblock.2 hb)⟩
  · have hno := mt hblock.1 hb
    by_cases hs : '*' ∈ line
    · exact .inr ⟨hb, .inl ⟨hs, (if_neg hno).trans (if_pos (by simpa using hs))⟩⟩
    · exact .inr ⟨hb, .inr ⟨hs, (if_neg hno).trans (if_neg (by simpa using hs))⟩⟩

/-- The pattern of a line, under its number. What looks like a block and is none is a literal. -/
structure Pattern.IsOf (p : Pattern) (number : Nat) (category : String) (line : List Char) : Prop where
  id : p.id.toNat = number
  name : p.name = category ++ "_" ++ p.kind.name ++ "_" ++ toString number
  category : p.category = category
  priority : p.priority = 10
  caseSensitive : p.caseSensitive = true
  block : LooksLikeBlock line → ∀ b, Block.read? line = .ok b →
    p.kind = .cidr ∧ p.isRegex = true ∧ p.text = String.ofList b.source
  glob : ¬ LooksLikeBlock line → '*' ∈ line →
    p.kind = .wildcard ∧ p.isRegex = false ∧ p.text = String.ofList line
  literal : (LooksLikeBlock line → ∀ b, Block.read? line ≠ .ok b) → (¬ LooksLikeBlock line → '*' ∉ line) →
    p.kind = .exact ∧ p.isRegex = false ∧ p.text = String.ofList line

theorem Pattern.isOf_ofLine (id : UInt32) (category : String) (line : List Char) :
    (ofLine id category line).IsOf id.toNat category line := by
  unfold ofLine
  obtain ⟨hb, hk⟩ | ⟨hb, ⟨hs, hk⟩ | ⟨hs, hk⟩⟩ := Kind.ofLine_cases line
  · rw [hk]
    dsimp only
    split
    · rename_i b hr
      refine ⟨rfl, rfl, rfl, rfl, rfl, fun _ b' hr' => ?_, fun hn => absurd hb hn, fun hn => absurd hr (hn hb b)⟩
      obtain rfl : b = b' := by simpa [hr] using hr'
      exact ⟨rfl, rfl, rfl⟩
    · rename_i hr
      exact ⟨rfl, rfl, rfl, rfl, rfl, fun _ b hr' => by simp [hr] at hr', fun hn => absurd hb hn,
        fun _ _ => ⟨rfl, rfl, rfl⟩⟩
  · rw [hk]
    exact ⟨rfl, rfl, rfl, rfl, rfl, fun hy => absurd hy hb, fun _ _ => ⟨rfl, rfl, rfl⟩, fun _ hn => absurd hs (hn hb)⟩
  · rw [hk]
    exact ⟨rfl, rfl, rfl, rfl, rfl, fun hy => absurd hy hb, fun _ hy => absurd hy hs, fun _ _ => ⟨rfl, rfl, rfl⟩⟩

/-! ## Lists of patterns -/

/-- The patterns of some lines, each of a category, numbered from `first` on. -/
structure ListedFrom (first : Nat) (entries : List (String × List Char)) (ps : List Pattern) : Prop where
  length : ps.length = entries.length
  isOf : ∀ {k : Nat} {category : String} {line : List Char} {p : Pattern},
    entries[k]? = some (category, line) → ps[k]? = some p → p.IsOf (first + k) category line

namespace ListedFrom

variable {first : Nat} {entries : List (String × List Char)} {ps : List Pattern}

theorem append {entries' : List (String × List Char)} {ps' : List Pattern} (h : ListedFrom first entries ps)
    (h' : ListedFrom (first + ps.length) entries' ps') : ListedFrom first (entries ++ entries') (ps ++ ps') := by
  refine ⟨by simp [h.length, h'.length], fun {k category line p} he hp => ?_⟩
  rcases Nat.lt_or_ge k ps.length with hk | hk
  · rw [List.getElem?_append_left (h.length ▸ hk)] at he
    rw [List.getElem?_append_left hk] at hp
    exact h.isOf he hp
  · rw [List.getElem?_append_right (h.length ▸ hk), ← h.length] at he
    rw [List.getElem?_append_right hk] at hp
    have hnumber : first + ps.length + (k - ps.length) = first + k := by omega
    exact hnumber ▸ h'.isOf he hp

theorem id_getElem (h : ListedFrom first entries ps) {k : Nat} (hk : k < ps.length) : ps[k].id.toNat = first + k := by
  have hlt : k < entries.length := h.length ▸ hk
  exact (h.isOf (List.getElem?_eq_getElem hlt) (List.getElem?_eq_getElem hk)).id

/-- The numbers go on without gaps. -/
theorem map_id (h : ListedFrom first entries ps) : ps.map (·.id.toNat) = List.range' first ps.length := by
  refine List.ext_getElem (by simp) fun k hk _ => ?_
  rw [List.getElem_map, h.id_getElem, List.getElem_range', Nat.one_mul]

theorem id_lt (h : ListedFrom first entries ps) {p : Pattern} (hp : p ∈ ps) : p.id.toNat < first + ps.length := by
  obtain ⟨k, hk, rfl⟩ := List.getElem_of_mem hp
  rw [h.id_getElem]
  omega

/-- The number after those of a list that starts with 1 is not used in it. -/
theorem toNat_nextIdAfter (h : ListedFrom 1 entries ps) (hfits : ps.length < 4294967295) :
    (nextIdAfter ps).toNat = 1 + ps.length := by
  unfold nextIdAfter
  rcases ps.eq_nil_or_concat' with rfl | ⟨front, p, rfl⟩
  · rfl
  · have hlast : p.id.toNat = 1 + front.length := by simpa using h.id_getElem (k := front.length) (by simp)
    simp only [List.length_append, List.length_singleton] at hfits ⊢
    rw [List.getLast?_concat, Option.map_some, Option.getD_some, UInt32.toNat_add, hlast, UInt32.toNat_one,
      Nat.mod_eq_of_lt (by omega)]
    omega

end ListedFrom

/-! ## Reading lists -/

theorem length_entryLines_le (text : String) : (entryLines text).length ≤ (lines text.toList).length :=
  (List.length_filter_le ..).trans (by simp)

theorem toNat_add_ofNat {id : UInt32} {k : Nat} (h : id.toNat + k < UInt32.size) :
    (id + UInt32.ofNat k).toNat = id.toNat + k := by
  rw [UInt32.toNat_add, UInt32.toNat_ofNat', Nat.add_mod_mod, Nat.mod_eq_of_lt h]

/-- The lines that hold patterns are numbered on, as long as there are numbers. -/
theorem listedFrom_readList (text category : String) (firstId : UInt32)
    (hfits : firstId.toNat + (lines text.toList).length ≤ UInt32.size) :
    ListedFrom firstId.toNat ((entryLines text).map (category, ·)) (readList text category firstId) := by
  have hle := length_entryLines_le text
  rw [readList_eq_mapIdx]
  refine ⟨by simp, fun {k c line p} he hp => ?_⟩
  simp only [List.getElem?_map, Option.map_eq_some_iff, Prod.mk.injEq] at he
  obtain ⟨l, hline, rfl, rfl⟩ := he
  rw [List.getElem?_mapIdx, hline, Option.map_some, Option.some.injEq] at hp
  have hk : k < (entryLines text).length := (List.getElem?_eq_some_iff.1 hline).1
  have hid : (firstId + UInt32.ofNat k).toNat = firstId.toNat + k := toNat_add_ofNat (by omega)
  rw [← hp, ← hid]
  exact Pattern.isOf_ofLine ..

/-- Lines are read on from the number that those before them leave. -/
theorem readLines_append (category : String) (id : UInt32) (as bs : List (List Char)) :
    readLines category id (as ++ bs) =
      readLines category id as ++ readLines category (id + .ofNat (readLines category id as).length) bs := by
  induction as generalizing id with
  | nil => exact congrArg (readLines category · bs) (UInt32.add_zero id).symm
  | cons line rest ih =>
    simp only [List.cons_append, readLines]
    split
    · rw [ih, List.length_cons, List.cons_append, add_ofNat_succ]
    · exact ih id

theorem readList_append (a b category : String) (firstId : UInt32) :
    readList (a ++ "\n" ++ b) category firstId =
      readList a category firstId ++ readList b category (firstId + .ofNat (readList a category firstId).length) := by
  have hcut : (a ++ "\n" ++ b).toList.splitOn '\n' = a.toList.splitOn '\n' ++ b.toList.splitOn '\n' := by
    rw [String.toList_append, String.toList_append, List.append_assoc]
    exact List.splitOn_append_cons_self ..
  rw [readList, hcut, readLines_append]
  rfl

/-- **A list is read line by line**: every line that is not empty without the blanks around it, and does not start
with a hash then, gives one pattern, which is what the line stands for and takes the next number. What comes after a
line feed is read as if it came alone, from the next number on. -/
theorem readList_listed (text category : String) (firstId : UInt32)
    (hfits : firstId.toNat + (lines text.toList).length < UInt32.size) :
    ListedFrom firstId.toNat ((entryLines text).map (category, ·)) (readList text category firstId) ∧
      ∀ a b, text = a ++ "\n" ++ b → ∃ nextId : UInt32,
        nextId.toNat = firstId.toNat + (readList a category firstId).length ∧
          readList text category firstId = readList a category firstId ++ readList b category nextId := by
  have hlisted := listedFrom_readList text category firstId (Nat.le_of_lt hfits)
  refine ⟨hlisted, ?_⟩
  rintro a b rfl
  have hle : (readList a category firstId).length ≤ (lines (a ++ "\n" ++ b).toList).length := by
    have hlength := hlisted.length
    rw [readList_append, List.length_append, List.length_map] at hlength
    have hle := length_entryLines_le (a ++ "\n" ++ b)
    omega
  have hnext := Nat.lt_of_le_of_lt (Nat.add_le_add_left hle _) hfits
  exact ⟨_, toNat_add_ofNat hnext, readList_append ..⟩

/-- Lines that end in two ways, blanks of several kinds, a remark, a block, one whose length is out of range, and a
glob; what follows the remark is read from the second number on. -/
theorem readList_listed_remarks :
    let before := " tok_1\u00a0\r\n# 10.0.0.0/8"
    let after := "\r\n1.2.3.0/24\n\t1.2.3.4/33\r\n\u3000\na*?"
    let entries := ["tok_1", "1.2.3.0/24", "1.2.3.4/33", "a*?"].map fun line => ("blacklist", line.toList)
    let ps := readList (before ++ "\n" ++ after) "blacklist" 4294967280
    4294967280 + (lines (before ++ "\n" ++ after).toList).length < UInt32.size ∧
      ListedFrom 4294967280 entries ps ∧ ps.map (·.kind) = [.exact, .cidr, .exact, .wildcard] ∧
      ∃ nextId : UInt32, nextId.toNat = 4294967281 ∧
        ps = readList before "blacklist" 4294967280 ++ readList after "blacklist" nextId := by
  intro before after entries ps
  have hfits : 4294967280 + (lines (before ++ "\n" ++ after).toList).length < UInt32.size := by decide +kernel
  have hentries : entries = (entryLines (before ++ "\n" ++ after)).map ("blacklist", ·) := by decide +kernel
  have hone : (readList before "blacklist" 4294967280).length = 1 := by decide +kernel
  obtain ⟨hlisted, happend⟩ := readList_listed (before ++ "\n" ++ after) "blacklist" 4294967280 hfits
  obtain ⟨nextId, hnext, hps⟩ := happend before after rfl
  rw [hone] at hnext
  exact ⟨hfits, hentries ▸ hlisted, by decide +kernel, nextId, hnext, hps⟩

/-! ## Numbers of a screener -/

/-- The number of lines of a file, which are none if it cannot be read. -/
def lineCount (file : File) : Nat :=
  match file.readText with
  | .ok text => (lines text.toList).length
  | .error _ => 0

theorem lineCount_of_read {file : File} {text : String} (h : file.readText = .ok text) :
    lineCount file = (lines text.toList).length := by
  rw [lineCount, h]

/-- There are numbers for all patterns, and one more: none that is added has the last number, and lists that are
loaded have fewer lines than there are numbers. -/
def Operation.LeavesNumbers : Operation → Prop
  | .load blacklist whitelist => lineCount blacklist + lineCount whitelist < 4294967295
  | .add p => p.id ≠ 4294967295
  | .compile _ | .find _ | .resetScans => True

instance : (op : Operation) → Decidable op.LeavesNumbers
  | .load .. => inferInstanceAs (Decidable (_ < _))
  | .add _ => inferInstanceAs (Decidable (_ ≠ _))
  | .compile _ | .find _ | .resetScans => .isTrue trivial

/-- The patterns of two lists, the second numbered on from the first. -/
def readBoth (black white : String) : List Pattern :=
  let ps := readList black "blacklist" 1
  ps ++ readList white "whitelist" (nextIdAfter ps)

theorem length_readList_le (text category : String) (firstId : UInt32) :
    (readList text category firstId).length ≤ (lines text.toList).length := by
  rw [readList_eq_mapIdx, List.length_mapIdx]
  exact length_entryLines_le text

/-- Two lists are numbered through from 1, whether or not there are patterns in either. -/
theorem listedFrom_readBoth {black white : String}
    (hfits : (lines black.toList).length + (lines white.toList).length < 4294967295) :
    ListedFrom 1 ((entryLines black).map ("blacklist", ·) ++ (entryLines white).map ("whitelist", ·))
      (readBoth black white) := by
  have hsize : UInt32.size = 4294967296 := rfl
  have hone : (1 : UInt32).toNat = 1 := rfl
  have hle := length_readList_le black "blacklist" 1
  have hb := listedFrom_readList black "blacklist" 1 (by omega)
  have hnext := hb.toNat_nextIdAfter (by omega)
  have hw := listedFrom_readList white "whitelist" (nextIdAfter (readList black "blacklist" 1)) (by omega)
  exact hb.append (hnext ▸ hw)

theorem lt_max_of_lt {a b c : UInt32} (h : a < b ∨ a < c) : a < max b c := by
  change a < if b ≤ c then c else b
  simp only [UInt32.lt_iff_toNat_lt] at h
  split <;> simp only [UInt32.le_iff_toNat_le, UInt32.lt_iff_toNat_lt] at * <;> omega

namespace Screener

theorem load_of_read (s : Screener) {blacklist whitelist : File} {black white : String}
    (hb : blacklist.readText = .ok black) (hw : whitelist.readText = .ok white) :
    s.load blacklist whitelist = ({ s with
      patterns := readBoth black white
      nextId := nextIdAfter (readBoth black white)
      isCompiled := false }, .ok ()) := by
  unfold load readListFile
  rw [hb, hw]
  rfl

theorem lt_idAfter {id : UInt32} (h : id ≠ 4294967295) : id < idAfter id := by
  have hlast : id.toNat ≠ 4294967295 := fun e => h (UInt32.toNat_inj.1 e)
  have hlt := id.toNat_lt
  rw [idAfter, if_neg h, UInt32.lt_iff_toNat_lt, UInt32.toNat_add, UInt32.toNat_one, Nat.mod_eq_of_lt (by omega)]
  omega

/-- The next number is greater than all that are in use. -/
def NextIsUnused (s : Screener) : Prop := ∀ p ∈ s.patterns, p.id < s.nextId

namespace NextIsUnused

variable {s : Screener}

/-- Whatever changes neither the patterns nor the next number keeps it. -/
theorem of_eq (h : s.NextIsUnused) {s' : Screener} (hp : s'.patterns = s.patterns) (hn : s'.nextId = s.nextId) :
    s'.NextIsUnused := by
  unfold NextIsUnused
  rw [hp, hn]
  exact h

theorem load (h : s.NextIsUnused) {blacklist whitelist : File}
    (hfits : lineCount blacklist + lineCount whitelist < 4294967295) : (s.load blacklist whitelist).1.NextIsUnused := by
  obtain ⟨e, -, hl⟩ | ⟨black, white, hb, hw, -⟩ := s.load_cases blacklist whitelist
  · rw [hl]
    exact h
  · rw [lineCount_of_read hb, lineCount_of_read hw] at hfits
    have hlisted := listedFrom_readBoth hfits
    have hlength : (readBoth black white).length < 4294967295 := by
      rw [readBoth, List.length_append]
      exact Nat.lt_of_le_of_lt (Nat.add_le_add (length_readList_le ..) (length_readList_le ..)) hfits
    rw [s.load_of_read hb hw]
    intro p hp
    rw [UInt32.lt_iff_toNat_lt, hlisted.toNat_nextIdAfter hlength]
    exact hlisted.id_lt hp

theorem add (h : s.NextIsUnused) {p : Pattern} (hp : p.id ≠ 4294967295) : (s.add p).NextIsUnused := by
  intro q hq
  rcases List.mem_append.1 hq with hq | hq
  · exact lt_max_of_lt (.inl (h q hq))
  · rw [List.mem_singleton.1 hq]
    exact lt_max_of_lt (.inr (lt_idAfter hp))

theorem step (h : s.NextIsUnused) {op : Operation} (hop : op.LeavesNumbers) : (s.step op).1.NextIsUnused := by
  cases op with
  | load blacklist whitelist => exact h.load hop
  | add p => exact h.add hop
  | compile b =>
    obtain ⟨e, -, hc⟩ | ⟨-, hc⟩ := s.compile_cases b
    all_goals
      rw [Screener.step, hc]
      exact h.of_eq rfl rfl
  | resetScans => exact h.of_eq rfl rfl
  | find q =>
    cases hc : s.isCompiled with
    | true =>
      rw [Screener.step, find_of_compiled hc]
      exact h.of_eq rfl rfl
    | false =>
      rw [Screener.step, find_of_not_compiled hc]
      exact h

theorem run (h : s.NextIsUnused) {ops : List Operation} (hops : ∀ op ∈ ops, op.LeavesNumbers) :
    (s.run ops).NextIsUnused := by
  induction ops generalizing s with
  | nil => exact h
  | cons op ops ih =>
    exact ih (h.step (hops op (List.mem_cons_self ..))) fun op' h' => hops op' (List.mem_cons_of_mem _ h')

end NextIsUnused

/-- **The next number of a screener is greater than all that are in use**, whatever was loaded and added before, so a
pattern that is added under it gets a number of its own. Lists that are loaded are numbered through from 1, the
blacklist in order of its lines and then the whitelist. -/
theorem nextId_unused (r : Request) (ops : List Operation) (hops : ∀ op ∈ ops, op.LeavesNumbers) :
    let s := (new r).run ops
    (∀ p ∈ s.patterns, p.id < s.nextId) ∧
      (∀ p, p.id = s.nextId → (s.patterns.map (·.id)).Nodup → ((s.add p).patterns.map (·.id)).Nodup) ∧
      ∀ blacklist whitelist, (Operation.load blacklist whitelist).LeavesNumbers →
        ∀ s', s.load blacklist whitelist = (s', .ok ()) →
          ∃ black white, blacklist.readText = .ok black ∧ whitelist.readText = .ok white ∧
            ListedFrom 1 ((entryLines black).map ("blacklist", ·) ++ (entryLines white).map ("whitelist", ·))
              s'.patterns ∧
            s'.patterns.map (·.id.toNat) = List.range' 1 s'.patterns.length := by
  intro s
  have hs : s.NextIsUnused := NextIsUnused.run (s := new r) nofun hops
  refine ⟨hs, fun p hp hnodup => ?_, fun blacklist whitelist hfits s' hload => ?_⟩
  · have hnew : ∀ q ∈ s.patterns, ¬ q.id = s.nextId := fun q hq he => UInt32.lt_irrefl _ (he ▸ hs q hq)
    simpa [add, hp, List.nodup_append] using ⟨hnodup, hnew⟩
  · obtain ⟨e, -, hl⟩ | ⟨black, white, hb, hw, -⟩ := s.load_cases blacklist whitelist
    · simp [hl] at hload
    · have hcount : lineCount blacklist + lineCount whitelist < 4294967295 := hfits
      rw [lineCount_of_read hb, lineCount_of_read hw] at hcount
      have hlisted := listedFrom_readBoth hcount
      rw [s.load_of_read hb hw] at hload
      obtain ⟨rfl, -⟩ := Prod.mk.inj hload
      exact ⟨black, white, hb, hw, hlisted, hlisted.map_id⟩

/-- A pattern with a large number, a load of which one list is empty, a pattern under the number of another one, a
load that fails, and a pattern under the next number. -/
theorem nextId_unused_reloaded :
    let file : String → File := fun s => some s.toUTF8
    let ops : List Operation := [.add (.exact 40 "a" "blacklist"), .load (file "# none") (file "b\nc"),
      .add (.exact 2 "d" "blacklist"), .compile .boundless, .load (file "e") none, .add (.exact 3 "f" "blacklist")]
    let s := (new .auto).run ops
    let s' := (s.load (file "g\nh") (file "i")).1
    (∀ op ∈ ops, op.LeavesNumbers) ∧ s.patterns.map (·.id) = [1, 2, 2, 3] ∧ s.nextId = 4 ∧
      (∀ p ∈ s.patterns, p.id < s.nextId) ∧ s'.patterns.map (·.id.toNat) = [1, 2, 3] := by
  intro file ops s s'
  have hops : ∀ op ∈ ops, op.LeavesNumbers := by decide +kernel
  have houtcome : (s.load (file "g\nh") (file "i")).2 = .ok () := by decide +kernel
  have hload : s.load (file "g\nh") (file "i") = (s', .ok ()) := Prod.ext rfl houtcome
  have hlength : s'.patterns.length = 3 := by decide +kernel
  obtain ⟨hunused, -, hloads⟩ := nextId_unused .auto ops hops
  obtain ⟨-, -, -, -, -, hids⟩ := hloads (file "g\nh") (file "i") (by decide +kernel) s' hload
  exact ⟨hops, by decide +kernel, by decide +kernel, hunused, hids.trans (congrArg (List.range' 1) hlength)⟩

end Screener

end FraudScreen.Screening
