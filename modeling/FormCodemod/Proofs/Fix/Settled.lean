import FormCodemod.Proofs.Fix.Run
import FormCodemod.Proofs.Fix.Selection
import FormCodemod.Proofs.Module
import FormCodemod.Proofs.Rule.Edits

/-!
# Settled texts

A fix that the rules report can always be carried out: its edits fit in the text (`fits_of_fix`), so
that a pass carries out some fix whenever there is one (`applied_pos_iff`). A run that ends before
it has to therefore leaves nothing that could be fixed (`lint_settles`).

All this rests on spans that fit in the text as it is. The tree of a text with a byte order mark has
the spans of the text without it.
-/

namespace FormCodemod

open FormCodemod.Syntax FormCodemod.Text

variable {m : Module} {config : Config} {filename : String} {text : List Char} {v : Violation}
  {set : EditSet} {edits : List Edit}

/-! ### Fixes that fit -/

theorem EditSet.compose?_eq_some_iff :
    compose? edits = some set ↔ ofList edits = .ok set ∧ set.edits ≠ [] := by
  rw [compose?]
  cases h : ofList edits with
  | error conflict => exact ⟨nofun, fun h => nomatch h.1⟩
  | ok set' =>
    rw [Except.ok.injEq]
    dsimp only
    split
    case isTrue hempty =>
      refine ⟨nofun, ?_⟩
      rintro ⟨rfl, hne⟩
      exact absurd (List.isEmpty_iff.1 hempty) hne
    case isFalse hsome =>
      rw [Option.some_inj]
      refine ⟨?_, And.left⟩
      rintro rfl
      exact ⟨rfl, fun hnil => hsome (List.isEmpty_iff.2 hnil)⟩

/-- Edits that go together are a fix, if there are any. -/
theorem EditSet.isSome_compose? (hne : edits ≠ []) (h : ∃ set, ofList edits = .ok set) :
    (compose? edits).isSome := by
  obtain ⟨set, hset⟩ := h
  rw [Option.isSome_iff_exists]
  refine ⟨set, compose?_eq_some_iff.2 ⟨hset, fun hnil => ?_⟩⟩
  have hperm := (laysOut_of_ofList hset).perm
  rw [hnil] at hperm
  exact hne hperm.nil_eq.symm

/-- A fix has edits, and these fit in the text. -/
theorem fits_of_fix (hfit : m.tree.SpansFit m.text) (hv : v ∈ m.lint config)
    (hfix : v.fix = some set) : set.edits ≠ [] ∧ ∀ e ∈ set.edits, e.span.FitsIn m.text := by
  obtain ⟨r, hr, rfl⟩ := List.mem_map.1 hv
  obtain ⟨edits, hedits, hcompose⟩ := Option.bind_eq_some_iff.1 hfix
  obtain ⟨hset, hne⟩ := EditSet.compose?_eq_some_iff.1 hcompose
  refine ⟨hne, fun e he => Module.fitsIn_of_mem_reports hfit hr hedits ?_⟩
  exact (EditSet.laysOut_of_ofList hset).perm.mem_iff.1 he

theorem isSome_merged?_of_fix (hfit : m.tree.SpansFit m.text) (hv : v ∈ m.lint config)
    (hfix : v.fix = some set) : (set.merged? m.text).isSome := by
  obtain ⟨hne, hfits⟩ := fits_of_fix hfit hv hfix
  refine (EditSet.isSome_merged?_iff fun e he => (hfits e he).forward).2 ⟨hne, fun e he => ?_⟩
  exact ⟨(hfits e he).start, (hfits e he).stop⟩

/-- A fix that can be merged is carried out by a pass that has no other one. -/
theorem applyFixes_singleton {source : List Char} (hf : Edit.AllForward set.edits)
    (hmerged : (set.merged? source).isSome) :
    ∃ out, applyFixes source [some set] = ⟨out, 1⟩ ∧ Edit.Rewrites 0 set.edits source out := by
  have hforward : Candidate.AllForward [some set] := by
    intro fix hfix set' hset
    cases List.mem_singleton.1 hfix
    cases hset
    exact hf
  have hchosen : chosenFixes source [some set] = [⟨set, 0⟩] := by
    rw [chosenFixes, Candidate.ofFixes, List.zipIdx_singleton, List.filterMap_cons,
      Option.filter_some, if_pos hmerged]
    rfl
  have hrewrites := rewrites_output source hforward
  rw [hchosen, List.flatMap_singleton] at hrewrites
  refine ⟨_, ?_, hrewrites⟩
  rw [applyFixes_eq, hchosen]
  rfl

/-- The fix of a report is carried out by a pass that has no other one. -/
theorem exists_applyFixes_of_fix {path : List Nat} {s : Subject} {r : Report}
    (hfit : m.tree.SpansFit m.text) (hands : Hands m.tree path s) (hr : r ∈ s.reports m config)
    (hfix : (m.violation r).fix = some set) :
    ∃ out, applyFixes m.text [some set] = ⟨out, 1⟩ ∧ Edit.Rewrites 0 set.edits m.text out := by
  have hv : m.violation r ∈ m.lint config :=
    List.mem_map_of_mem ((m.mem_reports_iff config).2 ⟨path, s, hands, hr⟩)
  exact applyFixes_singleton (fun e he => ((fits_of_fix hfit hv hfix).2 e he).forward)
    (isSome_merged?_of_fix hfit hv hfix)

/-! ### Passes that carry something out -/

/-- Something is chosen just if there are candidates. -/
theorem Selection.ne_nil_iff {candidate : Candidate → Prop} {chosen : List Candidate}
    (h : Selection candidate chosen) : chosen ≠ [] ↔ ∃ a, candidate a := by
  constructor
  · intro hne
    obtain ⟨a, rest, rfl⟩ := List.exists_cons_of_ne_nil hne
    exact ⟨a, h.candidates a List.mem_cons_self⟩
  · rintro ⟨b, hb⟩ rfl
    obtain ⟨a, ha, -⟩ := h.reached b hb List.not_mem_nil
    exact List.not_mem_nil ha

/-- A pass carries something out just if there is a fix. -/
theorem applied_pos_iff (hfit : m.tree.SpansFit m.text) :
    0 < (applyFixes m.text ((m.lint config).map (·.fix))).applied ↔
      ∃ v ∈ m.lint config, v.fix.isSome := by
  have hforward : Candidate.AllForward ((m.lint config).map (·.fix)) := by
    intro fix hfix set hset e he
    obtain ⟨v, hv, rfl⟩ := List.mem_map.1 hfix
    exact ((fits_of_fix hfit hv hset).2 e he).forward
  rw [applyFixes_eq, List.length_pos_iff, (selection_chosenFixes hforward).ne_nil_iff]
  constructor
  · rintro ⟨a, ha⟩
    obtain ⟨v, hv, hfix⟩ := List.mem_map.1 (List.mem_of_getElem? ha.listed)
    exact ⟨v, hv, by rw [hfix, Option.isSome_some]⟩
  · rintro ⟨v, hv, hsome⟩
    obtain ⟨set, hset⟩ := Option.isSome_iff_exists.1 hsome
    obtain ⟨i, hi⟩ := List.mem_iff_getElem?.1 (List.mem_map_of_mem (f := (·.fix)) hv)
    obtain ⟨hne, hfits⟩ := fits_of_fix hfit hv hset
    exact ⟨⟨set, i⟩, ⟨hset ▸ hi, fun e he => ⟨(hfits e he).start, (hfits e he).stop⟩⟩, hne⟩

/-! ### Runs that end by themselves -/

/-- The spans of a text's tree fit in it, in the text without a byte order mark and so in the text
    that has none. -/
theorem spansFit_of_read (hread : Module.read filename text = .ok m)
    (hmark : text.head? ≠ some '\ufeff') (hfit : m.tree.SpansFit (withoutMark text)) :
    m.tree.SpansFit m.text := by
  rwa [Module.text_of_read hread, ← withoutMark_eq hmark]

/-- A run that has not made all passes that it may make has ended where nothing could be carried
    out. -/
theorem remaining_of_passes_lt {source : List Char} {report : FixReport}
    (hrun : fixSource filename source config = .ok report) (hlt : report.passes < maxPasses) :
    ∃ m, Module.read filename report.output = .ok m ∧ report.remaining = m.lint config ∧
      (applyFixes report.output ((m.lint config).map (·.fix))).applied = 0 := by
  obtain ⟨-, -, m, hread, hremaining⟩ := reaches_output hrun
  have hnone := applied_eq_zero_of_passes_lt hrun hlt
  rw [hremaining] at hnone
  exact ⟨m, hread, hremaining, hnone⟩

/-- Where the spans of its tree fit in a text without a byte order mark, so do the edits of every
    fix that the rules report, and it can be merged; a pass carries something out just if there is a
    fix. So if a run ends before its last pass, with such a text, nothing that remains has a fix. -/
theorem lint_settles (filename : String) (source : List Char) (config : Config) (m : Module)
    (hread : Module.read filename source = .ok m) (hmark : source.head? ≠ some '\ufeff')
    (hfit : m.tree.SpansFit (withoutMark source)) :
    (∀ v ∈ m.lint config, ∀ set, v.fix = some set →
      (∀ e ∈ set.edits, e.span.start ≤ e.span.stop ∧ e.span.stop ≤ width source ∧
        IsPlace source e.span.start ∧ IsPlace source e.span.stop) ∧
      (set.merged? source).isSome) ∧
    (0 < (applyFixes source ((m.lint config).map (·.fix))).applied ↔
      ∃ v ∈ m.lint config, v.fix.isSome) ∧
    ∀ report, fixSource filename source config = .ok report → report.passes < maxPasses →
      report.output.head? ≠ some '\ufeff' →
      (∀ m', Module.read filename report.output = .ok m' →
        m'.tree.SpansFit (withoutMark report.output)) →
      ∀ v ∈ report.remaining, v.fix = none := by
  have hspans := spansFit_of_read hread hmark hfit
  obtain rfl := Module.text_of_read hread
  refine ⟨fun v hv set hset => ⟨fun e he => ?_, isSome_merged?_of_fix hspans hv hset⟩,
    applied_pos_iff hspans, fun report hrun hlt hmark' hfit' v hv => ?_⟩
  · have hfits := (fits_of_fix hspans hv hset).2 e he
    exact ⟨hfits.forward, hfits.stop.le_width, hfits.start, hfits.stop⟩
  · obtain ⟨m', hread', hremaining, hnone⟩ := remaining_of_passes_lt hrun hlt
    have hspans' := spansFit_of_read hread' hmark' (hfit' m' hread')
    rw [← Module.text_of_read hread'] at hnone
    -- A violation with a fix would make the last pass carry something out.
    by_contra hsome
    have hfixed : ∃ v ∈ m'.lint config, v.fix.isSome :=
      ⟨v, hremaining ▸ hv, Option.isSome_iff_ne_none.2 hsome⟩
    have hpos := (applied_pos_iff hspans').2 hfixed
    omega

/-- The inner function loses its empty parameter. The outer one keeps the prop, as it has no block
    that could declare the form. -/
theorem lint_settles_expression :
    ∃ m report,
      Module.read "a.jsx" "const É = ({form}) => f(({}) => 1);\nForm.create()(É);".toList = .ok m ∧
      0 < (applyFixes m.text ((m.lint {}).map (·.fix))).applied ∧
      fixSource "a.jsx" m.text {} = .ok report ∧ report.passes = 1 ∧
      report.remaining.map (·.issue) = [.formProp] ∧ ∀ v ∈ report.remaining, v.fix = none := by
  have hread : ∃ m,
      Module.read "a.jsx" "const É = ({form}) => f(({}) => 1);\nForm.create()(É);".toList = .ok m ∧
        m.text.head? ≠ some '\ufeff' ∧ m.tree.SpansFit (withoutMark m.text) ∧
        ∃ v ∈ m.lint {}, v.fix.isSome :=
    exists_ok (by decide +kernel)
  have hrun : ∃ report,
      fixSource "a.jsx" "const É = ({form}) => f(({}) => 1);\nForm.create()(É);".toList {} =
          .ok report ∧
        report.passes = 1 ∧ report.output.head? ≠ some '\ufeff' ∧
        report.remaining.map (·.issue) = [.formProp] ∧
        (Module.read "a.jsx" report.output).toOption.any
          (decide <| ·.tree.SpansFit (withoutMark report.output)) = true :=
    exists_ok (by decide +kernel)
  obtain ⟨m, hm, hmark, hfit, hsome⟩ := hread
  obtain ⟨report, hreport, hpasses, hmark', hissues, hfit'⟩ := hrun
  have htext := Module.text_of_read hm
  rw [← htext] at hreport
  obtain ⟨-, happlied, hremaining⟩ := lint_settles "a.jsx" m.text {} m (htext ▸ hm) hmark hfit
  refine ⟨m, report, hm, happlied.2 hsome, hreport, hpasses, hissues,
    hremaining report hreport (by rw [hpasses]; decide) hmark' fun m' hm' => ?_⟩
  rw [hm'] at hfit'
  exact of_decide_eq_true hfit'

end FormCodemod
