import FraudScreen.Proofs.Payment.Acceptance
import FraudScreen.Proofs.Replay.Lines
import Mathlib.Data.List.Forall2

/-!
# Replay line by line

A run prints, line after line, what the program prints when it is given that line and nothing else
(`replay_lineLocal`). Lines can be added, taken out or spoilt, and the records of the others stay. Of the arrival of
a line its record shows nothing but an identifier that was made for it.
-/
namespace FraudScreen.Replay

open Payment (Arrival DecisionRecord Transaction)
open Rules (Context Session)
open Scoring (Basis Scorer)

/-! ## Arrivals -/

/-- Two readings of one text, of which the first arrived as `a` and the second as `b`. -/
structure Readings (a b : Arrival) (tx tx' : Transaction) : Prop where
  requestId : tx'.requestId = tx.requestId ∨ tx.requestId = a.requestId ∧ tx'.requestId = b.requestId
  timestamp : tx'.timestamp = tx.timestamp ∨ tx.timestamp = a.moment ∧ tx'.timestamp = b.moment
  rest : tx' = { tx with requestId := tx'.requestId, timestamp := tx'.timestamp }

variable {a b : Arrival} {tx tx' : Transaction}

/-- A field that may be missing is read or else has its default. -/
theorem withDefault_cases {ν α : Type} {f : Fields ν} {name : String} {read : ν → Option α} {d x : α}
    (h : f.withDefault name read d = some x) (d' : α) :
    ∃ x', f.withDefault name read d' = some x' ∧ (x' = x ∨ x = d ∧ x' = d') := by
  unfold Fields.withDefault at h ⊢
  cases hv : f.get? name with
  | some v =>
    rw [hv] at h
    exact ⟨x, h, .inl rfl⟩
  | none =>
    rw [hv] at h
    exact ⟨d', rfl, .inr ⟨(Option.some.inj h).symm, rfl⟩⟩

theorem readings_ofFields? {f : Fields Json.Value} (h : Transaction.ofFields? a f = some tx) (b : Arrival) :
    ∃ tx', Transaction.ofFields? b f = some tx' ∧ Readings a b tx tx' := by
  simp only [Transaction.ofFields?, Option.bind_eq_bind, Option.bind_eq_some_iff, Option.pure_def,
    Option.some.injEq] at h ⊢
  obtain ⟨id, hid, moment, hmoment, purchase, hp, card, hc, device, hd, customer, hcu, rfl⟩ := h
  obtain ⟨id', hid', hsameId⟩ := withDefault_cases hid b.requestId
  obtain ⟨moment', hmoment', hsameMoment⟩ := withDefault_cases hmoment b.moment
  exact ⟨_, ⟨id', hid', moment', hmoment', purchase, hp, card, hc, device, hd, customer, hcu, rfl⟩, hsameId,
    hsameMoment, rfl⟩

/-- Whether a line is read does not depend on its arrival. -/
theorem readings_read? {line : String} {sub : Submission} (h : Submission.read? a line = some sub) (b : Arrival) :
    ∃ sub', Submission.read? b line = some sub' ∧ sub'.modelScores = sub.modelScores ∧
      Readings a b sub.transaction sub'.transaction := by
  simp only [Submission.read?, Option.bind_eq_some_iff] at h ⊢
  obtain ⟨v, hv, h⟩ := h
  simp only [hv, Option.some.injEq, exists_eq_left']
  unfold Submission.ofJson? at h ⊢
  split at h
  · rename_i members
    cases hread : (Json.Value.object members).isReadable Submission.mostDepth with
    | false => simp [hread] at h
    | true =>
      simp only [hread, if_true, Option.bind_eq_bind, Option.bind_eq_some_iff, Option.pure_def,
        Option.some.injEq] at h ⊢
      obtain ⟨f, hf, tx, htx, scores, hscores, rfl⟩ := h
      obtain ⟨tx', htx', hreadings⟩ := readings_ofFields? htx b
      exact ⟨_, ⟨f, hf, tx', htx', scores, hscores, rfl⟩, rfl, hreadings⟩
  · cases h

namespace Readings

/-- Rules see neither the identifier nor the time of a transaction. -/
theorem pass_eq (h : Readings a b tx tx') (p : Rules.Published) :
    Rules.pass p (.ofTransaction tx') = Rules.pass p (.ofTransaction tx) := by
  rw [h.rest]
  rfl

theorem record_eq (h : Readings a b tx tx') (basis : Basis) (t : Rules.Thresholds) (modelScores : List Float)
    (m : Rules.PassResult) :
    basis.record t (.ofTransaction tx') modelScores m =
      { basis.record t (.ofTransaction tx) modelScores m with requestId := tx'.requestId } := by
  rw [h.rest]
  rfl

/-- Of two arrivals at one moment, the identifiers that were made for them are all that validation sees. -/
theorem withinLimits (h : Readings a b tx tx') (hmoment : b.moment = a.moment)
    (hid : Payment.FitsText 100 b.requestId) {now : Calendar.Timestamp} (hw : tx.WithinLimits now) :
    tx'.WithinLimits now := by
  have hrequestId : Payment.FitsText 100 tx'.requestId := by
    rcases h.requestId with e | ⟨-, e⟩
    · exact e ▸ hw.requestId
    · exact e ▸ hid
  have htimestamp : tx'.timestamp = tx.timestamp := by
    rcases h.timestamp with e | ⟨e, e'⟩
    · exact e
    · rw [e', e, hmoment]
  rw [h.rest]
  exact { hw with requestId := hrequestId, timestamp := htimestamp ▸ hw.timestamp }

end Readings

/-- Identifiers that fit make no difference to what is accepted at a moment. -/
theorem Accepts.congr {line : String} (h : Accepts a line) (hmoment : b.moment = a.moment)
    (hid : Payment.FitsText 100 b.requestId) : Accepts b line := by
  obtain ⟨sub, hsub⟩ := h
  obtain ⟨sub', hread, -, hreadings⟩ := readings_read? hsub.read b
  have hlimits := hreadings.withinLimits hmoment hid (Transaction.validate_eq_ok_iff.1 hsub.valid)
  exact ⟨sub', hsub.notBlank, hread, Transaction.validate_eq_ok_iff.2 (hmoment ▸ hlimits)⟩

/-! ## Whole runs -/

theorem rules_of_loadRules {st : Settings} {s t : Scorer} (h : loadRules st s = .ok t) :
    t.rules = s.rules.step .reload := by
  unfold loadRules at h
  split at h
  · rename_i hload
    cases h
    exact (congrArg (·.1.rules) hload).symm
  · cases h

theorem rules_of_loadLists {st : Settings} {files : Files} {s t : Scorer} (h : loadLists st files s = .ok t) :
    t.rules = s.rules := by
  unfold loadLists at h
  split at h
  · split at h
    · cases h
      rfl
    · cases h
  · cases h
    rfl
  · cases h

/-- Preparing does to the rules what a session does that loads them once and perhaps begins to poll. -/
theorem coherent_prepare {st : Settings} {files : Files} {fresh : Scorer} (h : prepare st files = .ok fresh) :
    fresh.rules.Coherent := by
  unfold prepare at h
  simp only [bind, Except.bind, pure, Except.pure] at h
  split at h
  · cases h
  · rename_i s hs
    split at h
    · cases h
    · rename_i t ht
      cases h
      have hloaded : s.rules.Coherent := by
        rw [rules_of_loadRules hs]
        exact (Session.coherent_start _).step .reload
      have hwatched : (watchRules st s).rules.Coherent := by
        unfold watchRules
        split
        · rename_i interval _
          exact hloaded.step (.enablePolling interval (some .returned))
        · exact hloaded
      rwa [← rules_of_loadLists ht] at hwatched

/-- What the program prints if the line is all of its input. -/
def printsAlone (st : Settings) (files : Files) (arrival : Arrival) (line : String) : List DecisionRecord :=
  (runWith ⟨[], fun _ => none, files, line.toUTF8, fun _ => arrival⟩ { st with input := "-" }).records

/-- What is printed if lines are given one by one, each to a program of its own. -/
def printsEach (st : Settings) (files : Files) (arrivals : Nat → Arrival) (lines : List String) :
    List DecisionRecord :=
  lines.zipIdx.flatMap fun (line, i) => printsAlone st files (arrivals i) line

/-- A run over lines that starts and does not break down. -/
structure Replays (st : Settings) (w : Surroundings) (lines : List String) : Prop where
  starts : ∃ fresh, prepare st w.files = .ok fresh
  input : ∃ bytes, w.inputOf st = some bytes ∧ byteLines bytes = lines.map String.toUTF8
  code : (runWith w st).code ≠ brokeDown

variable {st : Settings} {files : Files} {fresh : Scorer} {arrivals arrivals' : Nat → Arrival} {w : Surroundings}
  {line : String} {lines : List String}

theorem inputOf_alone (st : Settings) (w : Surroundings) :
    w.inputOf { st with input := "-" } = some w.standardInput := by
  simp [Surroundings.inputOf, Settings.readsStandardInput]

theorem printsAlone_eq (hfresh : prepare st files = .ok fresh) (hline : 10 ∉ line.toUTF8.toList)
    (arrival : Arrival) : printsAlone st files arrival line = (lineResult fresh.basis arrival line).records := by
  have hprepare : prepare { st with input := "-" } files = .ok fresh := hfresh
  simp only [printsAlone, runWith, hprepare, inputOf_alone, byteLines_of_not_mem hline]
  split
  · rename_i hempty
    rw [eq_empty_of_toUTF8 hempty]
    rfl
  · exact records_runLines_singleton (coherent_prepare hfresh) (fun _ => arrival) 0 line

theorem printsEach_cons (line : String) (lines : List String) :
    printsEach st files arrivals (line :: lines) =
      printsAlone st files (arrivals 0) line ++ printsEach st files (later 1 arrivals) lines :=
  flatMap_zipIdx_cons (printsAlone st files) arrivals line lines

theorem printsEach_append (front back : List String) : ∀ {arrivals : Nat → Arrival},
    printsEach st files arrivals (front ++ back) =
      printsEach st files arrivals front ++ printsEach st files (later front.length arrivals) back := by
  induction front with
  | nil =>
    intro arrivals
    rw [List.length_nil, later_zero]
    rfl
  | cons line lines ih =>
    intro arrivals
    rw [List.cons_append, printsEach_cons, printsEach_cons, ih, later_later, List.append_assoc, List.length_cons,
      Nat.add_comm 1]

theorem recordsOf_eq_printsEach (hfresh : prepare st files = .ok fresh) :
    ∀ {lines : List String} {arrivals : Nat → Arrival}, (∀ line ∈ lines, 10 ∉ line.toUTF8.toList) →
      recordsOf fresh.basis arrivals lines = printsEach st files arrivals lines
  | [], _, _ => rfl
  | line :: lines, arrivals, h => by
    rw [List.forall_mem_cons] at h
    rw [recordsOf_cons, printsEach_cons, printsAlone_eq hfresh h.1, recordsOf_eq_printsEach hfresh h.2]

namespace Replays

theorem not_mem (h : Replays st w lines) : ∀ line ∈ lines, 10 ∉ line.toUTF8.toList := by
  obtain ⟨bytes, -, hbytes⟩ := h.input
  intro line hline
  have hmem : line.toUTF8 ∈ byteLines bytes := hbytes ▸ List.mem_map_of_mem hline
  exact not_mem_of_mem_byteLines hmem

/-- The run prints what every line prints alone, and breaks down on none of them. -/
theorem runWith_eq (h : Replays st w lines) (hfresh : prepare st w.files = .ok fresh) :
    runWith w st = ⟨completed, printsEach st w.files w.arrivals lines⟩ ∧
      Endures fresh.basis w.arrivals lines := by
  obtain ⟨bytes, hinput, hbytes⟩ := h.input
  have hrun : runWith w st = runLines w.arrivals 0 fresh (lines.map String.toUTF8) := by
    simp only [runWith, hfresh, hinput, hbytes]
  have hcases := runLines_cases w.arrivals lines 0 (coherent_prepare hfresh)
  rw [later_zero] at hcases
  obtain ⟨hendures, hlines⟩ | ⟨-, hcode⟩ := hcases
  · rw [recordsOf_eq_printsEach hfresh h.not_mem] at hlines
    exact ⟨hrun.trans hlines, hendures⟩
  · exact absurd (hrun ▸ hcode) h.code

/-- Lines on which the evaluator does not break down can be replayed. -/
theorem of_endures (hfresh : prepare st w.files = .ok fresh) (hinput : w.inputOf st = some (written lines).toUTF8)
    (hlines : ∀ line ∈ lines, '\n' ∉ line.toList) (h : Endures fresh.basis w.arrivals lines) : Replays st w lines := by
  have hbytes := byteLines_written hlines
  refine ⟨⟨fresh, hfresh⟩, ⟨_, hinput, hbytes⟩, ?_⟩
  have hcases := runLines_cases w.arrivals lines 0 (coherent_prepare hfresh)
  rw [later_zero] at hcases
  obtain ⟨-, hrun⟩ | ⟨hnot, -⟩ := hcases
  · simp only [runWith, hfresh, hinput, hbytes, hrun]
    decide
  · exact absurd h hnot

end Replays

/-! ## Single lines -/

/-- A line that is accepted prints one record, every other line none. -/
theorem printsAlone_cases (hfresh : prepare st files = .ok fresh) (hline : 10 ∉ line.toUTF8.toList)
    {arrival : Arrival} (hnone : lineResult fresh.basis arrival line ≠ .crashed) :
    (Accepts arrival line → ∃ r, printsAlone st files arrival line = [r]) ∧
      (¬ Accepts arrival line → printsAlone st files arrival line = []) := by
  rw [printsAlone_eq hfresh hline]
  have hbecomes := becomes_lineResult fresh.basis arrival line
  generalize lineResult fresh.basis arrival line = result at hbecomes hnone ⊢
  cases hbecomes with
  | skipped h => exact ⟨fun ha => absurd ha h, fun _ => rfl⟩
  | crashed => exact absurd rfl hnone
  | decided h _ => exact ⟨fun _ => ⟨_, rfl⟩, fun ha => absurd ⟨_, h⟩ ha⟩

/-- Two records of one line, of which the first arrived as `a` and the second as `b`: they agree, except that an
identifier that came with the arrival may differ. -/
structure SameLine (a b : Arrival) (r r' : DecisionRecord) : Prop where
  requestId : r'.requestId = r.requestId ∨ r.requestId = a.requestId ∧ r'.requestId = b.requestId
  rest : r' = { r with requestId := r'.requestId }

theorem sameLine_of_printsAlone (hfresh : prepare st files = .ok fresh) (hline : 10 ∉ line.toUTF8.toList)
    {r r' : DecisionRecord} (h : printsAlone st files a line = [r]) (h' : printsAlone st files b line = [r']) :
    SameLine a b r r' := by
  rw [printsAlone_eq hfresh hline] at h h'
  have hbecomes := becomes_lineResult fresh.basis a line
  have hbecomes' := becomes_lineResult fresh.basis b line
  generalize lineResult fresh.basis a line = result at hbecomes h
  generalize lineResult fresh.basis b line = result' at hbecomes' h'
  cases hbecomes with
  | skipped | crashed => cases h
  | @decided sub m hsub hp =>
    cases hbecomes' with
    | skipped | crashed => cases h'
    | @decided sub' m' hsub' hp' =>
      cases h
      cases h'
      obtain ⟨sub'', hsub'', hscores, hreadings⟩ := readings_read? hsub.read b
      cases hsub''.symm.trans hsub'.read
      rw [hreadings.pass_eq, hp, Option.some.injEq] at hp'
      subst hp'
      rw [hreadings.record_eq, hscores]
      exact ⟨hreadings.requestId, rfl⟩

/-! ## Two runs -/

/-- Every line is accepted as it arrives in one run if and only if it is as it arrives in the other. -/
def AcceptedAlike (arrivals arrivals' : Nat → Arrival) (lines : List String) : Prop :=
  ∀ i line, lines[i]? = some line → (Accepts (arrivals i) line ↔ Accepts (arrivals' i) line)

/-- Lines that arrive at the same moments are accepted alike if the identifiers that are made for them fit. -/
theorem acceptedAlike_of_moment_eq (hmoment : ∀ i, (arrivals' i).moment = (arrivals i).moment)
    (hid : ∀ i, Payment.FitsText 100 (arrivals i).requestId)
    (hid' : ∀ i, Payment.FitsText 100 (arrivals' i).requestId) (lines : List String) :
    AcceptedAlike arrivals arrivals' lines :=
  fun i _ _ => ⟨fun h => h.congr (hmoment i) (hid' i), fun h => h.congr (hmoment i).symm (hid i)⟩

/-- Records of the same lines in two runs, one after another. -/
def SameLines (arrivals arrivals' : Nat → Arrival) : List DecisionRecord → List DecisionRecord → Prop :=
  List.Forall₂ fun r r' => ∃ i, SameLine (arrivals i) (arrivals' i) r r'

/-- Records of lines that arrived in the same way are the same. -/
theorem SameLines.eq {rs rs' : List DecisionRecord} (h : SameLines arrivals arrivals rs rs') : rs' = rs := by
  induction h with
  | nil => rfl
  | @cons r r' rs rs' hr _ ih =>
    obtain ⟨i, hid, hrest⟩ := hr
    have hid : r'.requestId = r.requestId := hid.elim id fun ⟨e, e'⟩ => e'.trans e.symm
    rw [ih, hrest, hid]

theorem acceptedAlike_nil : AcceptedAlike arrivals arrivals' [] := fun _ _ h => by cases h

theorem acceptedAlike_cons {line : String} {lines : List String}
    (h : AcceptedAlike arrivals arrivals' (line :: lines)) :
    (Accepts (arrivals 0) line ↔ Accepts (arrivals' 0) line) ∧
      AcceptedAlike (later 1 arrivals) (later 1 arrivals') lines := by
  refine ⟨h 0 line rfl, fun i l hl => ?_⟩
  rw [later, later, Nat.add_comm]
  exact h (i + 1) l hl

theorem sameLines_printsEach (hfresh : prepare st files = .ok fresh) :
    ∀ {lines : List String} {arrivals arrivals' : Nat → Arrival}, (∀ line ∈ lines, 10 ∉ line.toUTF8.toList) →
      Endures fresh.basis arrivals lines → Endures fresh.basis arrivals' lines →
      AcceptedAlike arrivals arrivals' lines →
        SameLines arrivals arrivals' (printsEach st files arrivals lines) (printsEach st files arrivals' lines)
  | [], _, _, _, _, _, _ => .nil
  | line :: lines, arrivals, arrivals', hlines, he, he', ha => by
    rw [List.forall_mem_cons] at hlines
    rw [endures_cons_iff] at he he'
    obtain ⟨hfirst, hrest⟩ := acceptedAlike_cons ha
    have htail := sameLines_printsEach hfresh hlines.2 he.2 he'.2 hrest
    have htail : SameLines arrivals arrivals' _ _ := htail.imp fun r r' ⟨i, h⟩ => ⟨1 + i, h⟩
    obtain ⟨hsome, hnone⟩ := printsAlone_cases hfresh hlines.1 he.1
    obtain ⟨hsome', hnone'⟩ := printsAlone_cases hfresh hlines.1 he'.1
    rw [printsEach_cons, printsEach_cons]
    by_cases haccepts : Accepts (arrivals 0) line
    · obtain ⟨r, hr⟩ := hsome haccepts
      obtain ⟨r', hr'⟩ := hsome' (hfirst.1 haccepts)
      rw [hr, hr']
      exact .cons ⟨0, sameLine_of_printsAlone hfresh hlines.1 hr hr'⟩ htail
    · rw [hnone haccepts, hnone' (mt hfirst.2 haccepts)]
      exact htail

/-- The files with the rules and the patterns are the same. -/
def SameRules (st : Settings) (files files' : Files) : Prop :=
  ∀ path ∈ st.rulesPath :: (st.blacklistPath.toList ++ st.whitelistPath.toList), files' path = files path

theorem prepare_congr {files' : Files} (h : SameRules st files files') : prepare st files' = prepare st files := by
  have hrules : files' st.rulesPath = files st.rulesPath := h _ (List.mem_cons_self ..)
  have hlists (s : Scorer) : loadLists st files' s = loadLists st files s := by
    unfold loadLists
    split
    · rename_i black white hb hw
      rw [h black (by simp [hb]), h white (by simp [hw])]
    · rfl
    · rfl
  simp only [prepare, hrules, hlists]

theorem printsEach_congr {files' : Files} (h : SameRules st files files') (arrivals : Nat → Arrival)
    (lines : List String) : printsEach st files' arrivals lines = printsEach st files arrivals lines := by
  have hprepare : prepare { st with input := "-" } files' = prepare { st with input := "-" } files :=
    prepare_congr h
  simp only [printsEach, printsAlone, runWith, hprepare, inputOf_alone]

/-- **Replay is line-local.** A run over lines that does not break down comes to the end of its input, and prints
line after line what the program prints when it is given that line alone: one record if the line is accepted,
otherwise none. Whatever lines another run has in the place of some of them, for the lines before and after these it
prints the same, but for identifiers that were made for them. -/
theorem replay_lineLocal (st : Settings) (w : Surroundings) (lines : List String) (h : Replays st w lines) :
    (runWith w st).code = completed ∧
      (runWith w st).records = printsEach st w.files w.arrivals lines ∧
      (∀ i line, lines[i]? = some line →
        (Accepts (w.arrivals i) line → ∃ r, printsAlone st w.files (w.arrivals i) line = [r]) ∧
          (¬ Accepts (w.arrivals i) line → printsAlone st w.files (w.arrivals i) line = [])) ∧
      ∀ (front old new back : List String) (w' : Surroundings), lines = front ++ old ++ back →
        SameRules st w.files w'.files → Replays st w' (front ++ new ++ back) →
        let rest := later (front ++ old).length w.arrivals
        let rest' := later (front ++ new).length w'.arrivals
        AcceptedAlike w.arrivals w'.arrivals front → AcceptedAlike rest rest' back →
          (runWith w st).records = printsEach st w.files w.arrivals front ++
            printsEach st w.files (later front.length w.arrivals) old ++ printsEach st w.files rest back ∧
          (runWith w' st).records = printsEach st w.files w'.arrivals front ++
            printsEach st w.files (later front.length w'.arrivals) new ++ printsEach st w.files rest' back ∧
          SameLines w.arrivals w'.arrivals (printsEach st w.files w.arrivals front)
            (printsEach st w.files w'.arrivals front) ∧
          SameLines rest rest' (printsEach st w.files rest back) (printsEach st w.files rest' back) := by
  obtain ⟨fresh, hfresh⟩ := h.starts
  obtain ⟨hrun, hendures⟩ := h.runWith_eq hfresh
  refine ⟨by rw [hrun], by rw [hrun], fun i line hline => ?_, ?_⟩
  · have hmem : line ∈ lines := List.mem_of_getElem? hline
    exact printsAlone_cases hfresh (h.not_mem line hmem) (hendures i line hline)
  · intro front old new back w' hlines hrules h' rest rest' hfront hback
    obtain ⟨hrun', hendures'⟩ := h'.runWith_eq ((prepare_congr hrules).trans hfresh)
    rw [printsEach_congr hrules] at hrun'
    have hnot := h.not_mem
    subst hlines
    rw [endures_append_iff, endures_append_iff] at hendures hendures'
    refine ⟨?_, ?_, ?_, ?_⟩
    · rw [hrun, printsEach_append, printsEach_append]
    · rw [hrun', printsEach_append, printsEach_append]
    · exact sameLines_printsEach hfresh (fun l hl => hnot l (by simp [hl])) hendures.1.1 hendures'.1.1 hfront
    · exact sameLines_printsEach hfresh (fun l hl => hnot l (by simp [hl])) hendures.2 hendures'.2 hback

/-- Two runs over a line that is accepted, after one that cannot be read and after a blank one. Both print the
same. -/
theorem replay_lineLocal_unread :
    let rules := "[\"1\", null, [[\"large\", null, \"amount > 1000\", 150, true, \"\"]]]"
    let files : Files := fun path => if path = "rules.json" then some rules.toUTF8 else none
    let st : Settings := ⟨"rules.json", none, none, .auto, 0, "-", "none", "info", false⟩
    let line := "\x7b\"transaction\": [5000, \"CHF\", \"m\", 5411, \"chip\"], " ++
      "\"card\": [\"t\", \"CH\", \"visa\"], \"device\": [\"10.0.0.1\", \"f\", \"u\"], " ++
      "\"customer\": [\"c\", 0.25, 400]\x7d"
    let w (first : String) : Surroundings :=
      ⟨[], fun _ => none, files, (written [first, line]).toUTF8, fun _ => ⟨"made", ⟨0, 0⟩⟩⟩
    Replays st (w "[") ["[", line] ∧ Replays st (w "") ["", line] ∧
      (runWith (w "") st).records = (runWith (w "[") st).records ∧
      (runWith (w "[") st).records.map (fun r => (r.requestId, r.decision, r.triggeredRules)) =
        [("made", .review, ["large"])] := by
  intro rules files st line w
  let arrival : Arrival := ⟨"made", ⟨0, 0⟩⟩
  let shown (result : LineResult) := result.records.map fun r => (r.requestId, r.decision, r.triggeredRules)
  have hshown : (prepare st files).toOption.map (fun s => shown (lineResult s.basis arrival line)) =
      some [("made", .review, ["large"])] := by decide +kernel
  obtain ⟨fresh, hprepared, hline⟩ := Option.map_eq_some_iff.1 hshown
  have hfresh : prepare st files = .ok fresh := by
    cases hp : prepare st files <;> simp_all [Except.toOption]
  have hendured : lineResult fresh.basis arrival line ≠ .crashed := by
    intro hcrash
    simp [shown, hcrash, LineResult.records] at hline
  have hbadUnread : Submission.read? arrival "[" = none := by decide +kernel
  have hblankUnread : Submission.read? arrival "" = none := by decide +kernel
  have hreplays (first : String) (h : Submission.read? arrival first = none) (hfeed : '\n' ∉ first.toList) :
      Replays st (w first) [first, line] := by
    refine Replays.of_endures hfresh (inputOf_alone st (w first)) ?_ ?_
    · rw [List.forall_mem_cons, List.forall_mem_singleton]
      exact ⟨hfeed, by decide +kernel⟩
    · have hfirst : lineResult fresh.basis arrival first ≠ .crashed := by simp [lineResult_of_unread h]
      exact endures_cons_iff.2 ⟨hfirst, endures_cons_iff.2 ⟨hendured, endures_nil⟩⟩
  have hbad := hreplays "[" hbadUnread (by decide)
  have hblank := hreplays "" hblankUnread (by decide)
  obtain ⟨-, -, hcases, hedit⟩ := replay_lineLocal st (w "[") _ hbad
  obtain ⟨-, -, hcases', -⟩ := replay_lineLocal st (w "") _ hblank
  have hnone : printsAlone st files arrival "[" = [] :=
    (hcases 0 "[" rfl).2 (not_accepts_of_unread hbadUnread)
  have hnone' : printsAlone st files arrival "" = [] :=
    (hcases' 0 "" rfl).2 (not_accepts_of_unread hblankUnread)
  have hfits : Payment.FitsText 100 arrival.requestId := by decide
  obtain ⟨hrun, hrun', -⟩ := hedit [] ["["] [""] [line] (w "") rfl (fun _ _ => rfl) hblank acceptedAlike_nil
    (acceptedAlike_of_moment_eq (fun _ => rfl) (fun _ => hfits) (fun _ => hfits) _)
  have hrecords (first : String) (h : printsAlone st files arrival first = []) :
      [] ++ printsEach st files (fun _ => arrival) [first] ++ printsEach st files (fun _ => arrival) [line] =
        (lineResult fresh.basis arrival line).records := by
    have hfeed : 10 ∉ line.toUTF8.toList := hbad.not_mem line (by simp)
    rw [printsEach_cons, printsEach_cons, h, printsAlone_eq hfresh hfeed]
    simp [printsEach]
  have hbadRun : (runWith (w "[") st).records = (lineResult fresh.basis arrival line).records :=
    hrun.trans (hrecords "[" hnone)
  have hblankRun : (runWith (w "") st).records = (lineResult fresh.basis arrival line).records :=
    hrun'.trans (hrecords "" hnone')
  exact ⟨hbad, hblank, hblankRun.trans hbadRun.symm, hbadRun ▸ hline⟩

end FraudScreen.Replay
