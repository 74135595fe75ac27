import FraudScreen.Proofs.Screening.Separate
import FraudScreen.Screening.Workspace

/-!
# Scans do not disturb each other

The marks in a workspace are numbers of earlier scans (`Dated`), so at the start of a scan no pattern bears the mark
of that scan, and during it the patterns that do are those that were reported (`report_eq`). Therefore a scan finds
the same whatever was scanned before on the thread: `find_eq`.
-/
namespace FraudScreen.Screening

namespace Workspace

/-! ## Marks -/

/-- No mark is newer than the last scan. -/
def Dated (w : Workspace) : Prop := ∀ mark ∈ w.marks, mark ≤ w.scan

theorem dated_start : Dated start := fun _ h => absurd h (Array.not_mem_empty _)

theorem le_size_room (n : Nat) (marks : Array Nat) : n ≤ (room n marks).size := by
  rw [room, Array.size_append, Array.size_replicate]
  omega

theorem mem_room {n mark : Nat} {marks : Array Nat} (h : mark ∈ room n marks) : mark ∈ marks ∨ mark = 0 := by
  rcases Array.mem_append.1 h with h | h
  · exact .inl h
  · exact .inr (Array.mem_replicate.1 h).2

/-- A scan leaves no other marks than its own and those that it found. -/
theorem mem_report {admits : Nat → Bool} {scan mark : Nat} : ∀ {places : List Place} {marks : Array Nat},
    mark ∈ (report admits scan places marks).2 → mark ∈ marks ∨ mark = scan
  | [], _, h => .inl h
  | p :: rest, marks, h => by
    rw [report] at h
    split at h
    · exact mem_report h
    · rcases mem_report h with h | h
      · exact Array.mem_or_eq_of_mem_setIfInBounds h
      · exact .inr h

theorem Dated.find {w : Workspace} (h : Dated w) (s : Scan) : Dated (w.find s).1 := by
  unfold Workspace.find
  split
  · intro mark hm
    rcases mem_report hm with hm | hm
    · rcases mem_room hm with hm | hm
      · exact Nat.le_succ_of_le (h mark hm)
      · subst hm
        exact Nat.zero_le _
    · exact Nat.le_of_eq hm
  · exact h

theorem Dated.after : ∀ {scans : List Scan} {w : Workspace}, Dated w → Dated (w.after scans)
  | [], _, h => h
  | s :: _, _, h => (h.find s).after

/-- While the marked patterns are those that were reported, the places kept are the first ones of each pattern. -/
theorem report_eq (admits : Nat → Bool) {scan : Nat} :
    ∀ (places : List Place) {marks : Array Nat} {seen : List Nat}, (∀ p ∈ places, p.index < marks.size) →
      (∀ i, marks[i]? = some scan ↔ i ∈ seen) →
      (report admits scan places marks).1 = (firstPlaces seen places).filter (admits ·.index)
  | [], _, _, _, _ => rfl
  | p :: rest, marks, seen, hp, hseen => by
    have hp := List.forall_mem_cons.1 hp
    rw [report, firstPlaces, List.contains_eq_mem]
    by_cases h : p.index ∈ seen
    · rw [if_pos ((hseen _).2 h), if_pos (decide_eq_true h)]
      exact report_eq admits rest hp.2 hseen
    · -- the mark is written within bounds, so it stands for the report from here on
      have hmarks : ∀ i, (marks.setIfInBounds p.index scan)[i]? = some scan ↔ i ∈ p.index :: seen := by
        intro i
        rw [Array.getElem?_setIfInBounds, List.mem_cons]
        by_cases hi : p.index = i
        · simp [← hi, hp.1]
        · have hi' : ¬ i = p.index := fun e => hi e.symm
          rw [if_neg hi, hseen, or_iff_right hi']
      have ih := report_eq admits rest
        (by simpa only [Array.size_setIfInBounds] using hp.2) hmarks
      rw [if_neg fun hm => h ((hseen _).1 hm), if_neg (by simpa using h), List.filter_cons]
      dsimp only
      rw [ih]

/-! ## Findings -/

theorem index_lt_of_mem_sweep {ps : List Pattern} {text : List Char} {p : Place}
    (h : p ∈ sweep (Accelerated.compile ps).literals [] 0 text) : p.index < (Accelerated.compile ps).size := by
  obtain ⟨-, w, hw, -⟩ := mem_sweep_iff_begins.1 h
  rw [Accelerated.compile_literals, mem_numbered] at hw
  obtain ⟨q, hq, -⟩ := hw
  rw [Accelerated.size, Accelerated.compile_patterns, List.size_toArray, List.length_map]
  exact (List.getElem?_eq_some_iff.1 hq).1

/-- In any workspace of a thread, a scan finds what a scan without one finds. -/
theorem Dated.findings_eq {w : Workspace} (h : Dated w) (m : Method) (ps : List Pattern) (text : String)
    (category : Option String) :
    (w.find ⟨.compile m ps, text, category⟩).2 = (Database.compile m ps).scan text category := by
  cases m with
  | fallback => rfl
  | accelerated =>
    have hfresh : ∀ i, (room (Accelerated.compile ps).size w.marks)[i]? = some (w.scan + 1) ↔
        i ∈ ([] : List Nat) := by
      intro i
      refine ⟨fun hi => ?_, fun hi => absurd hi List.not_mem_nil⟩
      rcases mem_room (Array.mem_of_getElem? hi) with hm | hm
      · exact absurd (h _ hm) (Nat.not_succ_le_self _)
      · exact absurd hm (Nat.succ_ne_zero _)
    have hreport := report_eq ((Accelerated.compile ps).admits category)
      (sweep (Accelerated.compile ps).literals [] 0 text.toList)
      (fun p hp => Nat.lt_of_lt_of_le (index_lt_of_mem_sweep hp) (le_size_room ..)) hfresh
    simp only [Workspace.find, Database.compile, hreport]
    rfl

/-- **A scan finds the same whatever was scanned before on the thread.** -/
theorem find_eq (earlier : List Scan) (m : Method) (ps : List Pattern) (text : String) (category : Option String) :
    ((start.after earlier).find ⟨.compile m ps, text, category⟩).2 = (Database.compile m ps).scan text category :=
  dated_start.after.findings_eq m ps text category

end Workspace

end FraudScreen.Screening
