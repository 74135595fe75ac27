import FraudScreen.Proofs.Scoring.Basis
import FraudScreen.Replay.Run

/-!
# Lines by themselves

What becomes of a line rests on what scores rest on, on its arrival and on its text (`scoreLine_eq`). A run over
lines is therefore a run over each of them by itself (`runLines_cases`).
-/
namespace FraudScreen.Replay

open Payment (Arrival DecisionRecord)
open Scoring (Basis Scorer)

/-! ## Bytes and lines -/

theorem toList_loop (bytes : ByteArray) (i : Nat) (done : List UInt8) :
    ByteArray.toList.loop bytes i done = done.reverse ++ bytes.data.toList.drop i := by
  induction i, done using ByteArray.toList.loop.induct bytes with
  | case1 i done hi ih =>
    have hlength : i < bytes.data.toList.length := by simpa using hi
    rw [ByteArray.toList.loop, if_pos hi, ih, List.drop_eq_getElem_cons hlength]
    simp [ByteArray.get!, hi]
  | case2 i done hi =>
    have hlength : bytes.data.toList.length ≤ i := by simpa using hi
    rw [ByteArray.toList.loop, if_neg hi, List.drop_of_length_le hlength, List.append_nil]

theorem toList_eq (bytes : ByteArray) : bytes.toList = bytes.data.toList := by
  simpa [ByteArray.toList] using toList_loop bytes 0 []

/-- No piece of a list that was split contains the mark. -/
theorem not_mem_of_mem_splitOn {α : Type} [BEq α] [LawfulBEq α] {x : α} : ∀ {xs piece : List α},
    piece ∈ xs.splitOn x → x ∉ piece
  | [], piece, h => by simp_all
  | y :: ys, piece, h => by
    rw [List.splitOn_cons_eq_if_modifyHead] at h
    have ih {p : List α} (hp : p ∈ ys.splitOn x) : x ∉ p := not_mem_of_mem_splitOn hp
    split at h
    · rcases List.mem_cons.1 h with rfl | hmem
      · simp
      · exact ih hmem
    · rename_i hne
      generalize ys.splitOn x = pieces at h ih
      cases pieces with
      | nil => simp at h
      | cons p ps =>
        rcases List.mem_cons.1 h with rfl | hmem
        · have hp := ih (List.mem_cons_self ..)
          have hxy : x ≠ y := fun e => hne (by simp [e])
          simp [hxy, hp]
        · exact ih (List.mem_cons_of_mem _ hmem)

theorem not_mem_of_mem_byteLines {bytes line : ByteArray} (h : line ∈ byteLines bytes) : 10 ∉ line.toList := by
  simp only [byteLines, List.mem_map] at h
  obtain ⟨piece, hp, rfl⟩ := h
  have hpiece : piece ∈ bytes.toList.splitOn 10 := by
    split at hp
    · exact List.dropLast_subset _ hp
    · exact hp
  rw [toList_eq]
  exact not_mem_of_mem_splitOn hpiece

/-- A line without the end of a line is the only line of its bytes, unless it is empty. -/
theorem byteLines_of_not_mem {line : ByteArray} (h : 10 ∉ line.toList) :
    byteLines line = if line.toList = [] then [] else [line] := by
  have hroundtrip : (⟨line.toList.toArray⟩ : ByteArray) = line := by rw [toList_eq]
  simp only [byteLines, List.splitOn_eq_singleton h, List.getLast?_singleton, Option.some.injEq]
  split
  · rfl
  · simp [hroundtrip]

/-- The bytes of a text are read as the text. -/
theorem fromUTF8?_toUTF8 (s : String) : String.fromUTF8? s.toUTF8 = some s := dif_pos s.isValidUTF8

theorem eq_empty_of_toUTF8 {s : String} (h : s.toUTF8.toList = []) : s = "" := by
  have hbytes : s.toUTF8 = "".toUTF8 := by
    rw [toList_eq] at h
    exact ByteArray.ext (by simpa using h)
  have hs := congrArg String.fromUTF8? hbytes
  rwa [fromUTF8?_toUTF8, fromUTF8?_toUTF8, Option.some.injEq] at hs

/-- No character but the line feed is written with its byte. -/
theorem eq_lineFeed_of_mem_utf8EncodeChar {c : Char} (h : 10 ∈ String.utf8EncodeChar c) : c = '\n' := by
  have hbyte {n : Nat} (hn : 10 = UInt8.ofNat n) : n % 256 = 10 := by
    have hmod := congrArg UInt8.toNat hn
    simpa using hmod.symm
  have hlineFeed : ('\n' : Char).val.toNat = 10 := rfl
  simp only [String.utf8EncodeChar] at h
  split at h
  · have hv := hbyte (List.mem_singleton.1 h)
    refine Char.ext (UInt32.toNat_inj.1 ?_)
    omega
  · -- the bytes of longer forms are not below 128
    have hhigh : ∀ n, n % 256 = 10 → ¬ (128 ≤ n ∧ n < 256) := by omega
    repeat' split at h
    all_goals
      simp only [List.mem_cons, List.not_mem_nil, or_false] at h
    · rcases h with h | h <;> exact absurd (hbyte h) (by omega)
    · rcases h with h | h | h <;> exact absurd (hbyte h) (by omega)
    · rcases h with h | h | h | h <;> exact absurd (hbyte h) (by omega)

theorem not_mem_toUTF8 {s : String} (h : '\n' ∉ s.toList) : 10 ∉ s.toUTF8.toList := by
  intro hmem
  rw [toList_eq, String.toUTF8_eq_toByteArray, ← String.utf8Encode_toList, List.utf8Encode,
    List.data_toByteArray, List.mem_flatMap] at hmem
  obtain ⟨c, hc, hbyte⟩ := hmem
  exact h (eq_lineFeed_of_mem_utf8EncodeChar hbyte ▸ hc)

/-- Lines as they are written, each with its end. -/
def written : List String → String
  | [] => ""
  | line :: lines => line ++ "\n" ++ written lines

theorem splitOn_written (lines : List String) : (∀ line ∈ lines, '\n' ∉ line.toList) →
    (written lines).toUTF8.toList.splitOn 10 = lines.map (·.toUTF8.toList) ++ [[]] := by
  induction lines with
  | nil =>
    have hbytes : (written []).toUTF8.toList = [] := by
      rw [toList_eq]
      rfl
    rw [hbytes, List.splitOn_nil]
    exact fun _ => rfl
  | cons line lines ih =>
    intro h
    rw [List.forall_mem_cons] at h
    have hbytes : (written (line :: lines)).toUTF8.toList =
        line.toUTF8.toList ++ 10 :: (written lines).toUTF8.toList := by
      have hfeed : "\n".toByteArray.data.toList = [10] := by decide
      simp only [toList_eq, written, String.toUTF8_eq_toByteArray, String.toByteArray_append,
        ByteArray.toList_data_append, hfeed, List.append_assoc, List.singleton_append]
    rw [hbytes, List.splitOn_append_cons_self_of_not_mem (not_mem_toUTF8 h.1), ih h.2]
    rfl

/-- Every list of lines is the list of lines of some input. -/
theorem byteLines_written {lines : List String} (h : ∀ line ∈ lines, '\n' ∉ line.toList) :
    byteLines (written lines).toUTF8 = lines.map String.toUTF8 := by
  have hroundtrip (line : String) : (⟨line.toUTF8.toList.toArray⟩ : ByteArray) = line.toUTF8 := by rw [toList_eq]
  simp only [byteLines, splitOn_written lines h, List.getLast?_concat, if_true, List.dropLast_concat, List.map_map,
    Function.comp_def, hroundtrip]

/-! ## What becomes of a line -/

/-- The records that are printed for a line. -/
def LineResult.records : LineResult → List DecisionRecord
  | .decided r => [r]
  | _ => []

/-- What becomes of a line by itself. -/
def lineResult (b : Basis) (arrival : Arrival) (line : String) : LineResult :=
  if (Text.trim line.toList).isEmpty then .skipped
  else match Submission.read? arrival line with
    | none => .skipped
    | some sub =>
      match b.result arrival.moment (.ofTransaction sub.transaction) sub.modelScores with
      | .decided r => .decided r
      | .invalid _ => .skipped
      | .crashed => .crashed

/-- A line that is not blank is read, and its transaction is valid. -/
structure Reads (arrival : Arrival) (line : String) (sub : Submission) : Prop where
  notBlank : (Text.trim line.toList).isEmpty = false
  read : Submission.read? arrival line = some sub
  valid : sub.transaction.validate arrival.moment = .ok ()

def Accepts (arrival : Arrival) (line : String) : Prop := ∃ sub, Reads arrival line sub

/-- What can become of a line by itself. -/
inductive Becomes (basis : Basis) (arrival : Arrival) (line : String) : LineResult → Prop where
  | skipped (h : ¬ Accepts arrival line) : Becomes basis arrival line .skipped
  | crashed {sub : Submission} (h : Reads arrival line sub)
    (hp : Rules.pass basis.published (.ofTransaction sub.transaction) = none) : Becomes basis arrival line .crashed
  | decided {sub : Submission} {m : Rules.PassResult} (h : Reads arrival line sub)
    (hp : Rules.pass basis.published (.ofTransaction sub.transaction) = some m) :
    Becomes basis arrival line (.decided
      (basis.record basis.published.ruleset.thresholds (.ofTransaction sub.transaction) sub.modelScores m))

theorem becomes_lineResult (basis : Basis) (arrival : Arrival) (line : String) :
    Becomes basis arrival line (lineResult basis arrival line) := by
  unfold lineResult
  cases hblank : (Text.trim line.toList).isEmpty with
  | true => exact .skipped fun ⟨sub, h⟩ => absurd hblank (by simp [h.notBlank])
  | false =>
    cases hread : Submission.read? arrival line with
    | none => exact .skipped fun ⟨sub, h⟩ => absurd hread (by simp [h.read])
    | some sub =>
      dsimp only
      cases hv : sub.transaction.validate arrival.moment with
      | error v =>
        rw [Basis.result_of_invalid (c := .ofTransaction sub.transaction) hv]
        refine .skipped fun ⟨sub', h⟩ => ?_
        cases hread.symm.trans h.read
        exact absurd hv (by simp [h.valid])
      | ok =>
        have hreads : Reads arrival line sub := ⟨hblank, hread, hv⟩
        cases hp : Rules.pass basis.published (.ofTransaction sub.transaction) with
        | none =>
          rw [Basis.result_of_crash (c := .ofTransaction sub.transaction) hv hp]
          exact .crashed hreads hp
        | some m =>
          rw [Basis.result_of_pass (c := .ofTransaction sub.transaction) hv hp]
          exact .decided hreads hp

/-- A line that cannot be read is skipped. -/
theorem lineResult_of_unread {arrival : Arrival} {line : String} (h : Submission.read? arrival line = none)
    (b : Basis) : lineResult b arrival line = .skipped := by
  simp [lineResult, h]

theorem not_accepts_of_unread {arrival : Arrival} {line : String} (h : Submission.read? arrival line = none) :
    ¬ Accepts arrival line := by
  rintro ⟨sub, hsub⟩
  cases h.symm.trans hsub.read

variable {s : Scorer}

/-- Nothing but the basis, the arrival and the text has a say in what becomes of a line, and the line leaves
the basis to the next. -/
theorem scoreLine_eq (h : s.rules.Coherent) (arrival : Arrival) (line : String) :
    (scoreLine s arrival line).2 = lineResult s.basis arrival line ∧
      (scoreLine s arrival line).1.basis = s.basis ∧ (scoreLine s arrival line).1.rules.Coherent := by
  unfold scoreLine lineResult
  split
  · exact ⟨rfl, rfl, h⟩
  · cases Submission.read? arrival line with
    | none => exact ⟨rfl, rfl, h⟩
    | some sub =>
      have hs := s.scores_score arrival.moment (.ofTransaction sub.transaction) sub.modelScores .zero
      have hbasis := hs.basis
      have hcoherent := hs.coherent h
      dsimp only
      rw [← hs.result_eq h (s.fits_zero _)]
      generalize s.score arrival.moment (.ofTransaction sub.transaction) sub.modelScores .zero = x at *
      obtain ⟨t, result⟩ := x
      cases result <;> exact ⟨rfl, hbasis, hcoherent⟩

/-- A run over a single line prints what becomes of it. -/
theorem records_runLines_singleton (h : s.rules.Coherent) (arrivals : Nat → Arrival) (number : Nat) (line : String) :
    (runLines arrivals number s [line.toUTF8]).records = (lineResult s.basis (arrivals number) line).records := by
  have hline := (scoreLine_eq h (arrivals number) line).1
  simp only [runLines, fromUTF8?_toUTF8]
  rw [← hline]
  generalize scoreLine s (arrivals number) line = x
  obtain ⟨t, _ | r | _⟩ := x <;> rfl

/-! ## What becomes of lines -/

/-- How lines arrive after the first `n`. -/
def later (n : Nat) (arrivals : Nat → Arrival) : Nat → Arrival := fun i => arrivals (n + i)

theorem later_zero (arrivals : Nat → Arrival) : later 0 arrivals = arrivals :=
  funext fun i => congrArg arrivals (Nat.zero_add i)

theorem later_later (m n : Nat) (arrivals : Nat → Arrival) : later m (later n arrivals) = later (n + m) arrivals :=
  funext fun i => congrArg arrivals (Nat.add_assoc n m i).symm

/-- What lines give one after another is what the first gives, and then what the others do. -/
theorem flatMap_zipIdx_cons {β : Type} (f : Arrival → String → List β) (arrivals : Nat → Arrival) (line : String)
    (lines : List String) :
    ((line :: lines).zipIdx.flatMap fun (l, i) => f (arrivals i) l) =
      f (arrivals 0) line ++ lines.zipIdx.flatMap fun (l, i) => f (later 1 arrivals i) l := by
  simp [later, List.zipIdx_succ, List.flatMap_map, Nat.add_comm]

/-- The records that are printed for lines, each by itself. -/
def recordsOf (b : Basis) (arrivals : Nat → Arrival) (lines : List String) : List DecisionRecord :=
  lines.zipIdx.flatMap fun (line, i) => (lineResult b (arrivals i) line).records

/-- The evaluator breaks down on none of the lines by themselves. -/
def Endures (b : Basis) (arrivals : Nat → Arrival) (lines : List String) : Prop :=
  ∀ i line, lines[i]? = some line → lineResult b (arrivals i) line ≠ .crashed

variable {b : Basis} {arrivals : Nat → Arrival}

theorem recordsOf_cons (line : String) (lines : List String) :
    recordsOf b arrivals (line :: lines) =
      (lineResult b (arrivals 0) line).records ++ recordsOf b (later 1 arrivals) lines :=
  flatMap_zipIdx_cons (fun arrival line => (lineResult b arrival line).records) arrivals line lines

theorem endures_nil : Endures b arrivals [] := fun _ _ h => by cases h

theorem endures_cons_iff {line : String} {lines : List String} :
    Endures b arrivals (line :: lines) ↔
      lineResult b (arrivals 0) line ≠ .crashed ∧ Endures b (later 1 arrivals) lines := by
  constructor
  · intro h
    refine ⟨h 0 line rfl, fun i l hl => ?_⟩
    rw [later, Nat.add_comm]
    exact h (i + 1) l hl
  · rintro ⟨hline, hlines⟩ (_ | i) l hl
    · cases hl
      exact hline
    · have hi := hlines i l hl
      rwa [later, Nat.add_comm] at hi

theorem endures_append_iff {front back : List String} : ∀ {arrivals : Nat → Arrival},
    Endures b arrivals (front ++ back) ↔
      Endures b arrivals front ∧ Endures b (later front.length arrivals) back := by
  induction front with
  | nil =>
    intro arrivals
    rw [List.length_nil, later_zero]
    exact ⟨fun h => ⟨endures_nil, h⟩, fun h => h.2⟩
  | cons line lines ih =>
    intro arrivals
    rw [List.cons_append, endures_cons_iff, endures_cons_iff, ih, later_later, and_assoc, List.length_cons,
      Nat.add_comm 1]

/-- **Lines do not see each other.** A run over lines prints what each of them prints by itself, unless it breaks
down on one of them. -/
theorem runLines_cases (arrivals : Nat → Arrival) (lines : List String) : ∀ (number : Nat) {s : Scorer},
    s.rules.Coherent →
      Endures s.basis (later number arrivals) lines ∧ runLines arrivals number s (lines.map String.toUTF8) =
          ⟨completed, recordsOf s.basis (later number arrivals) lines⟩ ∨
        ¬ Endures s.basis (later number arrivals) lines ∧
          (runLines arrivals number s (lines.map String.toUTF8)).code = brokeDown := by
  induction lines with
  | nil => exact fun _ _ _ => .inl ⟨endures_nil, rfl⟩
  | cons line lines ih =>
    intro number s h
    obtain ⟨hline, hbasis, hcoherent⟩ := scoreLine_eq h (arrivals number) line
    -- the lines after this one see the basis that it saw
    have hrest := ih (number + 1) hcoherent
    rw [hbasis, ← later_later] at hrest
    have hfirst : later number arrivals 0 = arrivals number := rfl
    rw [endures_cons_iff, recordsOf_cons, hfirst, ← hline]
    simp only [List.map_cons, runLines, fromUTF8?_toUTF8]
    generalize scoreLine s (arrivals number) line = x at hrest ⊢
    obtain ⟨t, result⟩ := x
    cases result with
    | crashed => exact .inr ⟨fun h => h.1 rfl, rfl⟩
    | skipped =>
      obtain ⟨hlines, hrun⟩ | ⟨hlines, hcode⟩ := hrest
      · exact .inl ⟨⟨nofun, hlines⟩, hrun⟩
      · exact .inr ⟨fun h => hlines h.2, hcode⟩
    | decided r =>
      obtain ⟨hlines, hrun⟩ | ⟨hlines, hcode⟩ := hrest
      · exact .inl ⟨⟨nofun, hlines⟩, congrArg (Outcome.after r) hrun⟩
      · exact .inr ⟨fun h => hlines h.2, hcode⟩

end FraudScreen.Replay
