import FraudScreen.Proofs.Screening.Freshness
import FraudScreen.Proofs.Screening.Occurrence

/-!
# Findings of many texts

What is found in several texts is what is found in each of them, one after the other, and a filter on categories only
leaves out what does not pass it. Findings keep their matches three times over, once all and once for either side;
however they are put together, the sides are those of the matches (`Findings.Built.isDivided`). Together:
`Screener.findings_compose`.
-/
namespace FraudScreen.Screening

open Payment (Transaction)

/-! ## Sides -/

namespace Findings

/-- The category of a match holds the word for what speaks against a transaction. -/
def SpeaksAgainst (h : Hit) : Prop := "blacklist".toList <:+: h.category.toList

/-- The category of a match holds the word for what speaks for a transaction, and not the other one. -/
def SpeaksFor (h : Hit) : Prop := ¬ SpeaksAgainst h ∧ "whitelist".toList <:+: h.category.toList

instance (h : Hit) : Decidable (SpeaksAgainst h) := inferInstanceAs (Decidable (_ <:+: _))

instance (h : Hit) : Decidable (SpeaksFor h) := inferInstanceAs (Decidable (_ ∧ _))

theorem isBlacklist_iff (h : Hit) : isBlacklist h.category = true ↔ SpeaksAgainst h := Text.occursIn_iff ..

theorem isWhitelist_iff (h : Hit) : isWhitelist h.category = true ↔ SpeaksFor h := by
  rw [isWhitelist, Bool.and_eq_true, Bool.not_eq_true', ← Bool.not_eq_true, isBlacklist_iff, Text.occursIn_iff]
  rfl

/-- The matches on either side are those of all matches that speak for it, in their order. -/
structure IsDivided (f : Findings) : Prop where
  against : f.against = f.hits.filter SpeaksAgainst
  inFavour : f.inFavour = f.hits.filter SpeaksFor

/-- Findings put together of none, of single matches and of other findings, with whatever counts of patterns and
texts. -/
inductive Built : Findings → Prop where
  | none (patternsChecked textsProcessed : Nat) : Built { empty with patternsChecked, textsProcessed }
  | push {f : Findings} (h : Hit) : Built f → Built (f.push h)
  | merge {f g : Findings} : Built f → Built g → Built (f.merge g)
  | recount {f : Findings} (textsProcessed : Nat) : Built f → Built { f with textsProcessed }

variable {f g : Findings}

theorem IsDivided.push (hf : f.IsDivided) (h : Hit) : (f.push h).IsDivided := by
  by_cases ha : SpeaksAgainst h
  · have hb := (isBlacklist_iff h).2 ha
    have hno : ¬ SpeaksFor h := fun hs => hs.1 ha
    constructor <;> simp [Findings.push, hb, ha, hno, hf.against, hf.inFavour]
  · have hb : isBlacklist h.category = false := Bool.eq_false_iff.2 (mt (isBlacklist_iff h).1 ha)
    by_cases hs : SpeaksFor h
    · have hw := (isWhitelist_iff h).2 hs
      constructor <;> simp [Findings.push, hb, hw, ha, hs, hf.against, hf.inFavour]
    · have hw : isWhitelist h.category = false := Bool.eq_false_iff.2 (mt (isWhitelist_iff h).1 hs)
      constructor <;> simp [Findings.push, hb, hw, ha, hs, hf.against, hf.inFavour]

theorem IsDivided.merge (hf : f.IsDivided) (hg : g.IsDivided) : (f.merge g).IsDivided :=
  ⟨by simp [Findings.merge, hf.against, hg.against], by simp [Findings.merge, hf.inFavour, hg.inFavour]⟩

theorem Built.isDivided (h : f.Built) : f.IsDivided := by
  induction h with
  | none => exact ⟨rfl, rfl⟩
  | push h _ ih => exact ih.push h
  | merge _ _ ihf ihg => exact ihf.merge ihg
  | recount _ _ ih => exact ⟨ih.against, ih.inFavour⟩

/-- The matches are those against, those in favour and those on neither side. -/
theorem IsDivided.perm (h : f.IsDivided) :
    (f.against ++ (f.inFavour ++ f.hits.filter fun x => ¬ SpeaksAgainst x ∧ ¬ SpeaksFor x)).Perm f.hits := by
  -- those that do not speak against are divided once more
  have hrest : (f.inFavour ++ f.hits.filter fun x => ¬ SpeaksAgainst x ∧ ¬ SpeaksFor x).Perm
      (f.hits.filter fun x => ¬ SpeaksAgainst x) := by
    have hsplit := List.filter_append_perm (fun x => decide (SpeaksFor x)) (f.hits.filter fun x => ¬ SpeaksAgainst x)
    rw [List.filter_filter, List.filter_filter] at hsplit
    refine .trans (.of_eq ?_) hsplit
    rw [h.inFavour]
    congr 1
    · exact List.filter_congr fun x _ => by simpa using fun hs : SpeaksFor x => hs.1
    · exact List.filter_congr fun x _ => by simp [Bool.and_comm]
  have hsplit := List.filter_append_perm (fun x => decide (SpeaksAgainst x)) f.hits
  rw [h.against]
  refine .trans (hrest.append_left _) (.trans (.of_eq ?_) hsplit)
  congr 1
  exact List.filter_congr fun x _ => by simp

theorem built_foldl_push (h : f.Built) (hs : List Hit) : (hs.foldl push f).Built := by
  induction hs generalizing f with
  | nil => exact h
  | cons x hs ih => exact ih (h.push x)

theorem built_ofHits (n : Nat) (hs : List Hit) : (ofHits n hs).Built := built_foldl_push (.none n 1) hs

end Findings

/-! ## Databases -/

namespace Database

theorem hits_scan (d : Database) (text : String) (category : Option String) :
    (d.scan text category).hits = d.hits text.toList category :=
  Findings.hits_ofHits ..

theorem built_scanFrom (d : Database) (category : Option String) {f : Findings} (h : f.Built) (texts : List String) :
    (texts.foldl (fun f t => f.merge (d.scan t category)) f).Built := by
  induction texts generalizing f with
  | nil => exact h
  | cons t texts ih => exact ih (h.merge (Findings.built_ofHits ..))

theorem hits_scanFrom (d : Database) (category : Option String) (f : Findings) (texts : List String) :
    (texts.foldl (fun f t => f.merge (d.scan t category)) f).hits =
      f.hits ++ texts.flatMap fun t => (d.scan t category).hits := by
  induction texts generalizing f with
  | nil => exact (List.append_nil _).symm
  | cons t texts ih => rw [List.foldl_cons, ih, List.flatMap_cons, ← List.append_assoc]; rfl

theorem hits_scanAll (d : Database) (texts : List String) (category : Option String) :
    (d.scanAll texts category).hits = texts.flatMap fun t => (d.scan t category).hits :=
  hits_scanFrom d category .empty texts

theorem built_find (d : Database) (q : Query) : (d.find q).Built := by
  cases q with
  | text t category => exact Findings.built_ofHits ..
  | batch texts category => exact .recount _ (built_scanFrom d category (.none 0 0) texts)
  | transaction tx => exact .recount _ (.recount _ (built_scanFrom d none (.none 0 0) _))

/-- A filter leaves out the matches of other categories, and nothing else. -/
theorem hits_compile_filter (m : Method) (ps : List Pattern) (text : List Char) (c : String) :
    (compile m ps).hits text (some c) = ((compile m ps).hits text none).filter (·.category = c) := by
  have hone (p : Pattern) : m.hit? text (some c) p = (m.hit? text none p).filter (·.category = c) := by
    have hcategory : ∀ i j, (Hit.ofSpan p text i j).category = p.category := fun _ _ => rfl
    cases hr : m.expression? p with
    | none => simp [Method.hit?, hr]
    | some r =>
      cases hf : r.find? text.toArray with
      | none => simp [Method.hit?, hr, hf]
      | some place =>
        by_cases hc : p.category = c <;>
          simp [Method.hit?, Pattern.isIn, hr, hf, hc, hcategory, Option.filter]
  rw [hits_compile, hits_compile, List.filter_filterMap]
  exact List.filterMap_congr fun p _ => hone p

end Database

/-! ## Screeners -/

namespace Screener

theorem scan_of_compiled {s : Screener} (h : s.isCompiled = true) (text : String) (category : Option String) :
    s.scan text category = ({ s with scanner := { s.scanner with scans := s.scanner.scans + 1 } },
      s.scanner.database.scan text category) :=
  find_of_compiled h (.text text category)

theorem scanAll_of_compiled {s : Screener} (h : s.isCompiled = true) (texts : List String) (category : Option String) :
    s.scanAll texts category =
      ({ s with scanner := { s.scanner with scans := s.scanner.scans + texts.length } },
        s.scanner.database.scanAll texts category) :=
  find_of_compiled h (.batch texts category)

/-- A transaction is searched as the texts of its fields are that are not empty, but all fields count as processed. -/
theorem screen_of_compiled {s : Screener} (h : s.isCompiled = true) (tx : Transaction) :
    s.screen tx = ((s.scanAll (screenedTexts tx) none).1,
      { (s.scanAll (screenedTexts tx) none).2 with textsProcessed := 10 }) := by
  rw [scanAll_of_compiled h]
  exact find_of_compiled h (.transaction tx)

/-- A filter leaves out the matches of other categories. -/
theorem Fresh.hits_scan_filter {r : Request} {s : Screener} (h : Fresh r s) (hc : s.isCompiled = true)
    (text c : String) : (s.scan text (some c)).2.hits = (s.scan text none).2.hits.filter (·.category = c) := by
  rw [scan_of_compiled hc, scan_of_compiled hc, h.database hc, Database.hits_scan, Database.hits_scan]
  exact Database.hits_compile_filter ..

/-- **Findings compose.** Whatever was done with a screener that is compiled, in several texts it finds what it finds in
each of them, one after the other, and with a filter the matches that pass it; a transaction is searched as its
fields are that are not empty, in their order. Every text that is scanned is counted. And however findings are put
together, either side has the matches that speak for it, so that none is on both sides, is lost or comes twice. -/
theorem findings_compose (r : Request) (ops : List Operation) (hc : ((new r).run ops).isCompiled = true) :
    let s := (new r).run ops
    (∀ texts category, (s.scanAll texts category).2.hits = texts.flatMap (fun t => (s.scan t category).2.hits) ∧
        (s.scanAll texts category).2.textsProcessed = texts.length) ∧
      (∀ text c, (s.scan text (some c)).2.hits = (s.scan text none).2.hits.filter (·.category = c)) ∧
      (∀ texts c, (s.scanAll texts (some c)).2.hits = (s.scanAll texts none).2.hits.filter (·.category = c)) ∧
      (∀ tx, let texts := ((screenedFields tx).map (·.2)).filter (· ≠ "")
        s.screen tx = ((s.scanAll texts none).1, { (s.scanAll texts none).2 with textsProcessed := 10 })) ∧
      (∀ text category, (s.scan text category).1.scanner.scans = s.scanner.scans + 1) ∧
      (∀ texts category, (s.scanAll texts category).1.scanner.scans = s.scanner.scans + texts.length) ∧
      (∀ q, (s.find q).2.Built) ∧
      ∀ f : Findings, f.Built → f.IsDivided ∧ (∀ h ∈ f.against, h ∉ f.inFavour) ∧
        (f.against ++ (f.inFavour ++
          f.hits.filter fun h => ¬ Findings.SpeaksAgainst h ∧ ¬ Findings.SpeaksFor h)).Perm f.hits := by
  intro s
  have hs : Fresh r s := (fresh_new r).run ops
  have hbatch : ∀ texts category,
      (s.scanAll texts category).2.hits = texts.flatMap fun t => (s.scan t category).2.hits := fun texts category => by
    simp only [scanAll_of_compiled hc, scan_of_compiled hc, Database.hits_scanAll, s]
  refine ⟨fun texts category => ⟨hbatch texts category, ?_⟩, hs.hits_scan_filter hc, fun texts c => ?_,
    screen_of_compiled hc, fun text category => ?_, fun texts category => ?_, fun q => ?_, fun f hf => ?_⟩
  · rw [scanAll_of_compiled hc]
    rfl
  · rw [hbatch, hbatch, List.filter_flatMap]
    exact congrArg (List.flatMap · texts) (funext fun t => hs.hits_scan_filter hc t c)
  · rw [scan_of_compiled hc]
  · rw [scanAll_of_compiled hc]
  · rw [find_of_compiled hc]
    exact Database.built_find ..
  · have hd := hf.isDivided
    refine ⟨hd, fun h ha hi => ?_, hd.perm⟩
    rw [hd.against, List.mem_filter, decide_eq_true_iff] at ha
    rw [hd.inFavour, List.mem_filter, decide_eq_true_iff] at hi
    exact hi.2.1 ha.2

/-- A category that holds both words, one pattern that is found in two texts, and a text in which nothing is found. -/
theorem findings_compose_sides :
    let ops : List Operation := [.add (.exact 1 "day" "blacklist_of_whitelist"), .add (.exact 2 "bad" "whitelist"),
      .compile .boundless]
    let texts := ["bad", "today", "none", "bad"]
    let s := (new .auto).run ops
    s.isCompiled = true ∧ (s.scanAll texts none).2.hits = texts.flatMap (fun t => (s.scan t none).2.hits) ∧
      (s.scanAll texts none).2.hits.map (·.patternId) = [2, 1, 2] ∧
      (s.scanAll texts none).2.against.map (·.patternId) = [1] ∧
      (s.scanAll texts none).2.inFavour.map (·.patternId) = [2, 2] ∧
      (s.scanAll texts (some "whitelist")).2.hits = (s.scanAll texts none).2.hits.filter (·.category = "whitelist") ∧
      (s.scanAll texts none).1.scanner.scans = s.scanner.scans + 4 := by
  intro ops texts s
  have hc : s.isCompiled = true := by decide +kernel
  obtain ⟨hbatch, -, hfilter, -, -, hscans, -⟩ := findings_compose .auto ops hc
  exact ⟨hc, (hbatch texts none).1, by decide +kernel, by decide +kernel, by decide +kernel, hfilter texts "whitelist",
    hscans texts none⟩

end Screener

end FraudScreen.Screening
