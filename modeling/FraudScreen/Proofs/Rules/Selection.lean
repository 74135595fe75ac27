import FraudScreen.Proofs.Rules.Publication
import FraudScreen.Proofs.Rules.Weights
import FraudScreen.Proofs.Text.Lines

/-!
# Rule sets of documents

The entries of a document are read one after another. `IsSelection` says which of them are kept once some are read:
it holds at the start, and every entry preserves it, whether it is kept or not (`IsSelection.skip`,
`IsSelection.keep`). The rules kept are sorted by their weights, and the sort is stable (`IsRanking`). So a rule set
has what its document says (`Ruleset.ofDocument_selects`).
-/
namespace FraudScreen.Rules

/-! ## Entries -/

/-- A rule is what a complete entry says, with the standard values for what the entry leaves out. -/
structure Entry.Defines (e : Entry) (r : Rule) : Prop where
  id : e.id = some r.id
  id_ne : r.id ≠ ""
  expression : e.expression = some r.expression
  shown : ∃ c ∈ r.expression.toList, Text.isBlank c = false
  name : r.name = e.name.getD r.id
  weight : r.weight = e.weight.getD 1
  enabled : r.enabled = e.enabled.getD true
  description : r.description = e.description.getD ""

theorem Entry.rule?_eq_some_iff {e : Entry} {r : Rule} : e.rule? = some r ↔ e.Defines r := by
  have hshown (s : String) : (!(Text.trim s.toList).isEmpty) = true ↔ ∃ c ∈ s.toList, Text.isBlank c = false := by
    rw [Bool.not_eq_true', List.isEmpty_eq_false_iff, ne_eq, Text.trim_eq_nil_iff]
    simp
  simp only [rule?, Option.bind_eq_bind, Option.bind_eq_some_iff, Option.filter_eq_some_iff, hshown]
  constructor
  · rintro ⟨id, ⟨hid, hne⟩, expression, ⟨hexpression, hshown⟩, hr⟩
    obtain rfl := Option.some.inj hr
    exact ⟨hid, by simpa using hne, hexpression, hshown, rfl, rfl, rfl, rfl⟩
  · rintro ⟨hid, hne, hexpression, hshown, hname, hweight, henabled, hdescription⟩
    refine ⟨r.id, ⟨hid, by simpa using hne⟩, r.expression, ⟨hexpression, hshown⟩, ?_⟩
    rw [← hname, ← hweight, ← henabled, ← hdescription]
    rfl

theorem Entry.Defines.eq {e : Entry} {r r' : Rule} (h : e.Defines r) (h' : e.Defines r') : r = r' :=
  Option.some.inj ((rule?_eq_some_iff.2 h).symm.trans (rule?_eq_some_iff.2 h'))

/-- The entry at a place is complete and defines a rule. -/
def DefinesAt (entries : List Entry) (k : ℕ) (r : Rule) : Prop := ∃ e, entries[k]? = some e ∧ e.Defines r

/-- The entry at a place is the first complete one with its identifier. -/
def FirstDefines (entries : List Entry) (k : ℕ) (r : Rule) : Prop :=
  DefinesAt entries k r ∧ ∀ j < k, ∀ r', DefinesAt entries j r' → r'.id ≠ r.id

theorem DefinesAt.lt {entries : List Entry} {k : ℕ} {r : Rule} (h : DefinesAt entries k r) : k < entries.length := by
  obtain ⟨e, he, -⟩ := h
  exact (List.getElem?_eq_some_iff.1 he).1

theorem definesAt_concat {entries : List Entry} {e : Entry} {k : ℕ} {r : Rule} :
    DefinesAt (entries ++ [e]) k r ↔ DefinesAt entries k r ∨ k = entries.length ∧ e.Defines r := by
  unfold DefinesAt
  rcases Nat.lt_trichotomy k entries.length with hlt | rfl | hgt
  · simp [List.getElem?_append_left hlt, hlt.ne]
  · simp
  · have hnone : (entries ++ [e])[k]? = none := List.getElem?_eq_none (by simpa using hgt)
    simp [hnone, List.getElem?_eq_none hgt.le, hgt.ne']

/-! ## Which entries are kept -/

/-- The rules kept of some entries, each with the place of its entry: an entry is kept if it is complete and none was
kept before it with the same identifier. -/
structure IsSelection (entries : List Entry) (kept : List (ℕ × Rule)) : Prop where
  ordered : kept.Pairwise (·.1 < ·.1)
  mem_iff : ∀ {k r}, (k, r) ∈ kept ↔ DefinesAt entries k r ∧ ∀ j r', (j, r') ∈ kept → j < k → r'.id ≠ r.id

/-- An identifier is in use once an entry with it is kept. -/
def InUse (kept : List (ℕ × Rule)) (id : String) : Prop := ∃ j r, (j, r) ∈ kept ∧ r.id = id

theorem inUse_concat {kept : List (ℕ × Rule)} {k : ℕ} {r : Rule} {id : String} :
    InUse (kept ++ [(k, r)]) id ↔ id = r.id ∨ InUse kept id := by
  unfold InUse
  simp only [List.mem_append, List.mem_singleton, Prod.mk.injEq]
  constructor
  · rintro ⟨j, s, hj | ⟨rfl, rfl⟩, hid⟩
    · exact .inr ⟨j, s, hj, hid⟩
    · exact .inl hid.symm
  · rintro (rfl | ⟨j, s, hj, hid⟩)
    · exact ⟨k, r, .inr ⟨rfl, rfl⟩, rfl⟩
    · exact ⟨j, s, .inl hj, hid⟩

namespace IsSelection

variable {entries : List Entry} {kept : List (ℕ × Rule)}

theorem nil : IsSelection [] [] := ⟨.nil, by simp [DefinesAt]⟩

theorem definesAt (h : IsSelection entries kept) {k : ℕ} {r : Rule} (hk : (k, r) ∈ kept) : DefinesAt entries k r :=
  (h.mem_iff.1 hk).1

/-- An entry is passed over if it is incomplete or its identifier is in use. -/
theorem skip (h : IsSelection entries kept) {e : Entry}
    (he : ∀ r, e.Defines r → InUse kept r.id) : IsSelection (entries ++ [e]) kept := by
  refine ⟨h.ordered, fun {k r} => ?_⟩
  rw [definesAt_concat]
  constructor
  · intro hk
    exact (h.mem_iff.1 hk).imp_left .inl
  · rintro ⟨hd | ⟨rfl, hd⟩, hfree⟩
    · exact h.mem_iff.2 ⟨hd, hfree⟩
    · obtain ⟨j, r', hj, hid⟩ := he r hd
      exact absurd hid (hfree j r' hj (h.definesAt hj).lt)

/-- A complete entry is kept if its identifier is not in use. -/
theorem keep (h : IsSelection entries kept) {e : Entry} {r : Rule} (he : e.Defines r)
    (hfree : ¬ InUse kept r.id) : IsSelection (entries ++ [e]) (kept ++ [(entries.length, r)]) := by
  refine ⟨List.pairwise_append.2 ⟨h.ordered, List.pairwise_singleton .., ?_⟩, fun {k s} => ?_⟩
  · rintro ⟨j, r'⟩ hj _ hlast
    obtain rfl := List.mem_singleton.1 hlast
    exact (h.definesAt hj).lt
  rw [definesAt_concat]
  simp only [List.mem_append, List.mem_singleton, Prod.mk.injEq]
  constructor
  · rintro (hk | ⟨rfl, rfl⟩)
    · obtain ⟨hd, hbefore⟩ := h.mem_iff.1 hk
      refine ⟨.inl hd, ?_⟩
      rintro j r' (hj | ⟨rfl, -⟩) hlt
      · exact hbefore j r' hj hlt
      · exact absurd hlt hd.lt.not_gt
    · refine ⟨.inr ⟨rfl, he⟩, ?_⟩
      rintro j r' (hj | ⟨rfl, -⟩) hlt
      · exact fun hid => hfree ⟨j, r', hj, hid⟩
      · exact absurd hlt (Nat.lt_irrefl _)
  · rintro ⟨hd | ⟨rfl, hd⟩, hbefore⟩
    · exact .inl (h.mem_iff.2 ⟨hd, fun j r' hj => hbefore j r' (.inl hj)⟩)
    · exact .inr ⟨rfl, hd.eq he⟩

/-- An identifier that a complete entry has was kept there or before. -/
theorem exists_le (h : IsSelection entries kept) {k : ℕ} {r : Rule} (hd : DefinesAt entries k r) :
    ∃ j r', j ≤ k ∧ (j, r') ∈ kept ∧ r'.id = r.id := by
  by_cases hused : ∃ j r', (j, r') ∈ kept ∧ j < k ∧ r'.id = r.id
  · obtain ⟨j, r', hj, hlt, hid⟩ := hused
    exact ⟨j, r', hlt.le, hj, hid⟩
  · exact ⟨k, r, le_rfl, h.mem_iff.2 ⟨hd, fun j r' hj hlt hid => hused ⟨j, r', hj, hlt, hid⟩⟩, rfl⟩

/-- What is kept of an identifier is its first complete definition. -/
theorem mem_iff_firstDefines (h : IsSelection entries kept) {k : ℕ} {r : Rule} :
    (k, r) ∈ kept ↔ FirstDefines entries k r := by
  constructor
  · intro hk
    obtain ⟨hd, hbefore⟩ := h.mem_iff.1 hk
    refine ⟨hd, fun j hj r' hd' hid => ?_⟩
    obtain ⟨i, r₀, hi, hmem, hid₀⟩ := h.exists_le hd'
    exact hbefore i r₀ hmem (hi.trans_lt hj) (hid₀.trans hid)
  · rintro ⟨hd, hfirst⟩
    exact h.mem_iff.2 ⟨hd, fun j r' hj hlt => hfirst j hlt r' (h.definesAt hj)⟩

/-- Of two entries the one that stands first was kept first. -/
theorem pair_sublist (h : IsSelection entries kept) {j k : ℕ} {a b : Rule} (ha : (j, a) ∈ kept) (hb : (k, b) ∈ kept)
    (hlt : j < k) : [(j, a), (k, b)].Sublist kept := by
  obtain ⟨front, back, rfl⟩ := List.append_of_mem ha
  have hordered := h.ordered
  rw [List.pairwise_append] at hordered
  have hb' : (k, b) ∈ back := by
    rcases List.mem_append.1 hb with hfront | hrest
    · exact absurd (hordered.2.2 _ hfront _ (List.mem_cons_self ..)) hlt.not_gt
    · rcases List.mem_cons.1 hrest with heq | hback
      · cases heq
        exact absurd hlt (Nat.lt_irrefl _)
      · exact hback
  exact ((List.singleton_sublist.2 hb').cons_cons _).trans (List.sublist_append_right ..)

/-- The entries that are kept of the rest are added at the end. -/
theorem append_selectRules (rest : List Entry) :
    ∀ {taken : List String} {entries : List Entry} {kept : List (ℕ × Rule)}, IsSelection entries kept →
      (∀ id, id ∈ taken ↔ InUse kept id) → ∃ more, IsSelection (entries ++ rest) (kept ++ more) ∧
        more.map Prod.snd = selectRules taken rest := by
  induction rest with
  | nil =>
    intro taken entries kept h _
    exact ⟨[], by simpa using h, rfl⟩
  | cons e rest ih =>
    intro taken entries kept h ht
    rw [List.append_cons]
    cases hr : e.rule? with
    | none =>
      have hincomplete (r : Rule) : ¬ e.Defines r := by
        rw [← Entry.rule?_eq_some_iff, hr]
        exact nofun
      obtain ⟨more, hmore, hmap⟩ := ih (h.skip fun r hd => absurd hd (hincomplete r)) ht
      exact ⟨more, hmore, by simp only [selectRules, hr, hmap]⟩
    | some r =>
      have hd : e.Defines r := Entry.rule?_eq_some_iff.1 hr
      by_cases hused : r.id ∈ taken
      · obtain ⟨more, hmore, hmap⟩ := ih (h.skip fun s hs => hs.eq hd ▸ (ht r.id).1 hused) ht
        exact ⟨more, hmore, by simp only [selectRules, hr, if_pos hused, hmap]⟩
      · have ht' (id : String) : id ∈ r.id :: taken ↔ InUse (kept ++ [(entries.length, r)]) id := by
          rw [List.mem_cons, ht, inUse_concat]
        obtain ⟨more, hmore, hmap⟩ := ih (h.keep hd ((ht r.id).not.1 hused)) ht'
        refine ⟨(entries.length, r) :: more, by simpa using hmore, ?_⟩
        simp only [selectRules, hr, if_neg hused, List.map_cons, hmap]

end IsSelection

/-- The loop over the entries of a document keeps those that are to be kept. -/
theorem exists_isSelection (entries : List Entry) :
    ∃ kept, IsSelection entries kept ∧ kept.map Prod.snd = selectRules [] entries := by
  obtain ⟨kept, hkept, hmap⟩ := @IsSelection.append_selectRules entries [] [] [] .nil (by simp [InUse])
  exact ⟨kept, hkept, hmap⟩

/-- An entry without an expression does not stand in the way of a later one, and the first of the others counts. -/
example :
    let entry (expression : String) : Entry := ⟨some "a", none, some expression, none, none, none⟩
    selectRules [] [entry " ", entry "true", entry "false"] = [⟨"a", "a", "true", 1, true, ""⟩] := rfl

/-! ## The order of rules -/

/-- A stable sort by weight, the heaviest first. -/
structure IsRanking (rules ranked : List Rule) : Prop where
  perm : ranked.Perm rules
  descending : ranked.Pairwise fun a b => b.weight.rank ≤ a.weight.rank
  stable : ∀ a b, a.weight = b.weight → [a, b].Sublist rules → [a, b].Sublist ranked

theorem isRanking_heaviestFirst (rules : List Rule) : IsRanking rules (heaviestFirst rules) := by
  let le (a b : Rule) : Bool := orderKey b.weight ≤ orderKey a.weight
  have htrans (a b c : Rule) (hab : le a b) (hbc : le b c) : le a c := by
    simp only [le, decide_eq_true_eq] at *
    omega
  have htotal (a b : Rule) : le a b || le b a := by
    simp only [le, Bool.or_eq_true, decide_eq_true_eq]
    omega
  refine ⟨List.mergeSort_perm .., ?_, fun a b hw hab => ?_⟩
  · refine (List.pairwise_mergeSort htrans htotal rules).imp fun {a b} h => ?_
    exact orderKey_le_iff.1 (of_decide_eq_true h)
  · have hle : le a b := decide_eq_true (hw ▸ le_rfl)
    exact List.pair_sublist_mergeSort htrans htotal hle hab

/-- Sorting and leaving out rules go together. -/
theorem IsRanking.filter {rules ranked : List Rule} (h : IsRanking rules ranked) (p : Rule → Bool) :
    IsRanking (rules.filter p) (ranked.filter p) := by
  refine ⟨h.perm.filter p, h.descending.sublist List.filter_sublist, fun a b hw hab => ?_⟩
  have hp : ∀ r ∈ [a, b], p r = true := fun r hr => (List.mem_filter.1 (hab.subset hr)).2
  have hfilter : [a, b].filter p = [a, b] := List.filter_eq_self.2 hp
  rw [← hfilter]
  exact (h.stable a b hw (hab.trans List.filter_sublist)).filter p

/-! ## Rule sets -/

namespace Ruleset

theorem IdsUnique.find?_eq_some_iff {rs : Ruleset} (h : rs.IdsUnique) {id : String} {r : Rule} :
    rs.find? id = some r ↔ r ∈ rs.rules ∧ r.id = id := by
  unfold find?
  constructor
  · intro hr
    exact ⟨List.mem_of_find?_eq_some hr, by simpa using List.find?_some hr⟩
  · rintro ⟨hr, rfl⟩
    have hsome : (rs.rules.find? (·.id = r.id)).isSome := List.find?_isSome.2 ⟨r, hr, by simp⟩
    obtain ⟨s, hs⟩ := Option.isSome_iff_exists.1 hsome
    have hid : s.id = r.id := by simpa using List.find?_some hs
    rw [hs, h.eq_of_id_eq (List.mem_of_find?_eq_some hs) hr hid]

/-- A rule set has the rules of some entries: those in `kept`, the heaviest first. -/
structure Selects (rs : Ruleset) (entries : List Entry) (kept : List (ℕ × Rule)) : Prop where
  selection : IsSelection entries kept
  ranking : IsRanking (kept.map Prod.snd) rs.rules
  ids : (rs.rules.map (·.id)).Nodup
  ids_ne : ∀ r ∈ rs.rules, r.id ≠ ""
  /-- No complete entry loses its identifier. -/
  complete : ∀ k r, DefinesAt entries k r → r.id ∈ rs.rules.map (·.id)
  /-- Rules of one weight are in the order of their entries. -/
  ties : ∀ j k a b, (j, a) ∈ kept → (k, b) ∈ kept → j < k → a.weight = b.weight → [a, b].Sublist rs.rules
  find : ∀ id r, rs.find? id = some r ↔ r.id = id ∧ ∃ k, FirstDefines entries k r
  /-- The enabled rules are in the order of all. -/
  enabled_sublist : rs.enabledRules.Sublist rs.rules
  enabled : IsRanking ((kept.map Prod.snd).filter (·.enabled)) rs.enabledRules

theorem selects_of_ranking {rs : Ruleset} {entries : List Entry} {kept : List (ℕ × Rule)}
    (hkept : IsSelection entries kept) (hranking : IsRanking (kept.map Prod.snd) rs.rules) (hids : rs.IdsUnique) :
    rs.Selects entries kept := by
  have hmem {r : Rule} : r ∈ rs.rules ↔ ∃ k, (k, r) ∈ kept := by
    rw [hranking.perm.mem_iff]
    simp
  refine
    { selection := hkept
      ranking := hranking
      ids := hids
      ids_ne := fun r hr => ?_
      complete := fun k r hd => ?_
      ties := fun j k a b ha hb hlt hw => ?_
      find := fun id r => ?_
      enabled_sublist := List.filter_sublist
      enabled := hranking.filter (·.enabled) }
  · obtain ⟨k, hk⟩ := hmem.1 hr
    obtain ⟨e, -, he⟩ := hkept.definesAt hk
    exact he.id_ne
  · obtain ⟨j, s, -, hj, hid⟩ := hkept.exists_le hd
    exact List.mem_map.2 ⟨s, hmem.2 ⟨j, hj⟩, hid⟩
  · exact hranking.stable a b hw ((hkept.pair_sublist ha hb hlt).map Prod.snd)
  · rw [hids.find?_eq_some_iff, hmem, and_comm]
    exact and_congr_right fun _ => exists_congr fun k => hkept.mem_iff_firstDefines

/-- **The rules of a document.** There is a rule set for it unless the threshold for approval exceeds the one for
review, each of them standard when it is missing. Its rules are those of the entries that are kept, sorted by weight:
for every identifier of a complete entry the first complete definition, and no other rules. -/
theorem ofDocument_selects (d : Document) :
    let approve := (d.thresholds.bind (·.approve)).getD 30
    let review := (d.thresholds.bind (·.review)).getD 70
    if review < approve then ofDocument d = .error ⟨approve, review⟩
    else ∃ rs kept, ofDocument d = .ok rs ∧ rs.thresholds = ⟨approve, review⟩ ∧
      rs.version = d.version.getD "1.0.0" ∧ rs.Selects d.rules kept := by
  intro approve review
  split
  · rename_i hconflict
    exact if_pos hconflict
  · rename_i hconflict
    obtain ⟨kept, hkept, hmap⟩ := exists_isSelection d.rules
    let rs : Ruleset := ⟨d.version.getD "1.0.0", heaviestFirst (selectRules [] d.rules), ⟨approve, review⟩⟩
    have hrs : ofDocument d = .ok rs := if_neg hconflict
    refine ⟨rs, kept, hrs, rfl, rfl, ?_⟩
    have hranking : IsRanking (kept.map Prod.snd) rs.rules := by
      rw [hmap]
      exact isRanking_heaviestFirst _
    exact selects_of_ranking hkept hranking (idsUnique_ofDocument hrs)

end Ruleset

end FraudScreen.Rules
