/-
Sessions on a limited stack.

A session goes wrong in one way only: a formula is too deep for the stack
when it is put in (`session_answers_within`). Nothing that an edit looks up
or computes can be missing, and no cell that is computed again is too deep,
for its content was accepted once, which took the whole of its tree. So the
contents that fit are answered, whatever came before, and they are answered
as on a stack without end.

Every stack has formulas that are too deep for it, such as long sums
(`deep_sum_not_answered`); only a limit of length keeps them out.
-/
import Worksheet.Proofs.Grid.Stack
import Worksheet.Proofs.Sheet.Answers

namespace Worksheet

open Grid

variable {stack : Nat}

-- =============================================================== sessions

namespace Sheet

variable {s : Sheet} {target : Target} {content : String}

/-- The sheet after some commands, as far as the stack has room for the
formulas. -/
def sessionWithin (stack : Nat) (s : Sheet) (commands : List Command) : Sheet :=
  s.sessionBy (evaluateFormulaWithin stack) commands

/-- An edit is answered as without a limit, or is cut short. -/
theorem cutShort_editWithin :
    CutShort (s.editWithin stack target content) (s.edit target content) := by
  unfold editWithin edit editBy
  refine (CutShort.refl _).bind fun i => ?_
  refine (cutShort_editBy fun _ _ _ _ =>
    cutShort_evaluateFormulaWithin).bind fun answer => ?_
  cases answer with
  | error err => exact .refl _
  | ok edited =>
      exact (cutShort_propagateBy fun _ _ _ _ =>
        cutShort_evaluateFormulaWithin).bind fun _ => .refl _

/-- Once a content that fits is accepted, all contents fit as before. -/
private theorem fitting_of_edit {i : Int} {edited : Grid}
    (hs : s.Current) (hfit : s.grid.Fitting s.settings stack)
    (hcontent : s.settings.Fits stack content) (hi : i ∈ s.grid)
    (hedit : s.grid.edit i content s.settings = .ok (.ok edited)) :
    edited.Faithful s.settings ∧ i ∈ edited ∧
      edited.Fitting s.settings stack := by
  obtain ⟨new, -, hacc, hr, hedited⟩ := hs.faithful.edit_ok hi hedit
  refine ⟨hedited, hr.mem.mpr hi, fun x hx => ?_⟩
  by_cases hne : x = i
  · rw [hne, hr.self, hacc.typed]
    exact hcontent
  · rw [hr.content (hr.mem.mp hx) hne]
    exact hfit x (hr.mem.mp hx)

/-- A content that fits is answered as without a limit: nothing that is
computed again because of it is too deep. -/
theorem editWithin_of_fits (hs : s.Current)
    (hfit : s.grid.Fitting s.settings stack)
    (hcontent : s.settings.Fits stack content) :
    s.editWithin stack target content = s.edit target content := by
  unfold editWithin edit editBy
  cases hresolve : s.resolve target with
  | error f => rfl
  | ok i =>
      have hi := mem_of_resolve hresolve
      show (s.grid.editBy _ i content s.settings >>= _) =
        (s.grid.edit i content s.settings >>= _)
      rw [editBy_of_fits hcontent]
      rcases hedit : s.grid.edit i content s.settings with f | (err | edited)
      · rfl
      · rfl
      · obtain ⟨hedited, hmem, hfit'⟩ :=
          fitting_of_edit hs hfit hcontent hi hedit
        show (edited.propagateBy _ i s.settings >>= _) =
          (edited.propagate i s.settings >>= _)
        rw [propagateBy_of_fitting hedited hmem hfit']

/-- A content that is accepted fits. -/
theorem fits_of_editWithin {p : Propagation}
    (h : s.editWithin stack target content = .ok (.ok p)) :
    s.settings.Fits stack content := by
  rcases editBy_ok h with ⟨err, hcase⟩ | ⟨i, edited, p', -, hgrid, -, -⟩
  · cases hcase
  · obtain ⟨new, -, heval, -⟩ := editBy_eq_ok hgrid
    exact fits_of_evaluateBy heval

/-- An edit that is answered leaves the sheet current, and all its contents
fitting. -/
theorem continues_after_within {result : Except EditError Propagation}
    (hs : s.Current) (hfit : s.grid.Fitting s.settings stack)
    (h : s.editWithin stack target content = .ok result) :
    s.Continues (s.after result) ∧
      (s.after result).grid.Fitting s.settings stack := by
  have hedit := cutShort_editWithin.eq_ok h
  refine ⟨hs.after hedit, ?_⟩
  rcases edit_ok hedit with ⟨err, rfl⟩ | ⟨i, edited, p, hi, hgrid, hprop, rfl⟩
  · exact hfit
  · obtain ⟨hedited, hmem, hfit'⟩ :=
      fitting_of_edit hs hfit (fits_of_editWithin h) hi hgrid
    obtain ⟨p', hprop', hr, -, -⟩ := hedited.propagate_spec hmem
    cases hprop.symm.trans hprop'
    intro x hx
    have hx' := hr.mem.mp hx
    show s.settings.Fits stack (p.grid.cellAt x).content
    rw [hr.content hx']
    exact hfit' x hx'

/-- So does a session from an empty grid on. -/
theorem continues_within {g : Grid} {numCols numRows : Int}
    (hstart : Grid.empty numCols numRows = .ok g) (settings : Settings)
    (stack : Nat) (commands : List Command) :
    let t := (Sheet.mk g settings).sessionWithin stack commands
    (Sheet.mk g settings).Continues t ∧ t.grid.Fitting t.settings stack := by
  refine sessionBy_of_edit (P := fun t =>
    (Sheet.mk g settings).Continues t ∧ t.grid.Fitting t.settings stack) ?_ ?_
  · rintro t target content result ⟨ht, hfit⟩ hedit
    obtain ⟨hnext, hfit'⟩ := continues_after_within ht.current hfit hedit
    refine ⟨ht.trans hnext, ?_⟩
    rwa [hnext.settings]
  · refine ⟨(Current.of_empty hstart).continues_self, fun x hx => ?_⟩
    rw [cellAt_empty hstart hx]
    exact Settings.fits_empty

end Sheet

/-- The grid after some commands, each given to a sheet that has settings of
its own, as far as the stack has room for the formulas. -/
def Grid.serveWithin (stack : Nat) (g : Grid)
    (commands : List (Settings × Command)) : Grid :=
  commands.foldl (fun g c =>
    ((Sheet.mk g c.1).performBy (evaluateFormulaWithin stack) c.2).grid) g

/-- Whatever the settings were, the grid stays coherent. -/
theorem Grid.Coherent.serveWithin {g : Grid} (hg : g.Coherent) (stack : Nat)
    (commands : List (Settings × Command)) :
    Endures g (g.serveWithin stack commands) := by
  induction commands generalizing g with
  | nil => exact ⟨hg, rfl, rfl⟩
  | cons c commands ih =>
      have hmid : Endures g ((Sheet.mk g c.1).performBy
          (evaluateFormulaWithin stack) c.2).grid := by
        refine Sheet.performBy_of_edit (P := fun t => Endures g t.grid)
          (fun ht hedit => ?_) ⟨hg, rfl, rfl⟩
        exact ht.trans (Sheet.endures_after ht.coherent
          (Sheet.cutShort_editWithin.eq_ok hedit))
      exact hmid.trans (ih hmid.coherent)

-- ================================================================= result

/-- The number tokens of a formula are numerals, so each of them has a value. -/
private theorem isNumeral_of_tokenize {keywords : List String}
    {limit : Option Int} {text : String} {tokens : List Token} {t : Token}
    (h : tokenize keywords limit text = .ok (.ok tokens)) (ht : t ∈ tokens)
    (hkind : t.kind = .number) : isNumeral t.text.toList = true := by
  rcases spelled_of_tokenize h t ht with heof | hspelled
  · rw [hkind] at heof
    cases heof
  · rw [hkind] at hspelled
    exact hspelled

section

variable {g : Grid} {settings : Settings} {target : Target}
  {numCols numRows : Int}

/-- Every edit of a cell of the sheet is answered if the stack has room for
what is put in, by a propagation or by the error that refuses it, after any
commands that came before. A content that does not fit is refused or ends
for want of stack, and nothing else happens to it. Even if each command
before found settings of its own, and with them functions that answer
otherwise, an edit is answered unless it ends for want of stack. The
conversions on the way meet numerals only. -/
theorem session_answers_within (hstart : Grid.empty numCols numRows = .ok g)
    (hsettings : settings.Proper) (htarget : target.On g) (stack : Nat)
    (content : String) :
    (∀ commands : List Command,
      let s := (Sheet.mk g settings).sessionWithin stack commands
      (settings.Fits stack content → ∃ result,
        s.editWithin stack target content = .ok result ∧
          s.edit target content = .ok result) ∧
      (¬ settings.Fits stack content →
        s.editWithin stack target content = .error .tooDeep ∨ ∃ err,
          s.editWithin stack target content = .ok (.error err) ∧
            s.edit target content = .ok (.error err))) ∧
    (∀ commands : List (Settings × Command),
      let s := Sheet.mk (g.serveWithin stack commands) settings
      s.editWithin stack target content = .error .tooDeep ∨ ∃ result,
        s.editWithin stack target content = .ok result ∧
          s.edit target content = .ok result) ∧
    ∀ formula tokens,
      tokenize settings.registry.names settings.maxLength formula =
        .ok (.ok tokens) →
      ∀ t ∈ tokens, t.kind = .number → isNumeral t.text.toList = true := by
  refine ⟨fun commands => ?_, fun commands => ?_,
    fun formula tokens hcut t ht hkind => isNumeral_of_tokenize hcut ht hkind⟩
  · obtain ⟨hlast, hfit⟩ :=
      Sheet.continues_within hstart settings stack commands
    intro s
    have hanswered : ∃ result, s.edit target content = .ok result := by
      refine Sheet.edit_total hlast.current.faithful.toCoherent ?_
        (htarget.congr hlast.size hlast.numCols)
      rwa [hlast.settings]
    obtain ⟨result, hedit⟩ := hanswered
    constructor
    · intro hcontent
      refine ⟨result, ?_, hedit⟩
      rw [← hedit]
      refine Sheet.editWithin_of_fits hlast.current hfit ?_
      rwa [hlast.settings]
    · intro hnot
      refine (Sheet.cutShort_editWithin.of_ok hedit).imp_right fun h => ?_
      cases result with
      | error err => exact ⟨err, h, hedit⟩
      | ok p =>
          have hcontent := Sheet.fits_of_editWithin h
          rw [hlast.settings] at hcontent
          exact absurd hcontent hnot
  · have hlast := (Coherent.of_empty hstart).serveWithin stack commands
    have hanswered : ∃ result,
        (Sheet.mk (g.serveWithin stack commands) settings).edit target content =
          .ok result :=
      Sheet.edit_total hlast.coherent hsettings
        (htarget.congr hlast.size hlast.numCols)
    obtain ⟨result, hedit⟩ := hanswered
    exact (Sheet.cutShort_editWithin.of_ok hedit).imp_right fun h =>
      ⟨result, h, hedit⟩

/-- Each command has a marker of its own, and the function that answers the
first one fails from the second on. The limit of length keeps out what would
be too deep. -/
theorem session_answers_within_two_cells :
    let answering := Registry.builtin.registerAll [("MEAN", sumOf)]
    let failing := Registry.builtin.registerAll
      [("MEAN", fun _ => .error (.custom "ValueError" "no mean")),
        ("A1", sumOf)]
    let settings : Settings := ⟨"=", some 20, some failing⟩
    let content := "=(mean(A0:A0)+1)"
    let served := twoCells.serveWithin 63
      [(⟨"=", none, some answering⟩, .edit (.name "B0") "=MEAN(A0:A0)"),
        (⟨"", none, some failing⟩, .load [("A0", "2,5"), ("B0", "=")]),
        (⟨"#", some 0, none⟩, .edit (.index 0) "=B0")]
    (∀ commands : List Command, ∃ result,
      ((Sheet.mk twoCells settings).sessionWithin 63 commands).editWithin 63
        (.name "B0") content = .ok result) ∧
    ((Sheet.mk served settings).editWithin 63 (.name "B0") content =
        .error .tooDeep ∨ ∃ result,
      (Sheet.mk served settings).editWithin 63 (.name "B0") content =
        .ok result) ∧
    ∀ tokens, tokenize settings.registry.names (some 20) "(mean(A0:A0)+1)" =
        .ok (.ok tokens) →
      ∀ t ∈ tokens, t.kind = .number → isNumeral t.text.toList = true := by
  intro answering failing settings content served
  have hsettings : settings.Proper :=
    ⟨fun n hn => by cases hn; decide, Or.inr ⟨_, rfl⟩⟩
  have htarget : Target.On twoCells (.name "B0") := ⟨1, by decide⟩
  have hfits : settings.Fits 63 content :=
    Settings.fits_of_maxLength (n := 20) rfl (by decide)
  have hanswers :=
    session_answers_within empty_twoCells hsettings htarget 63 content
  refine ⟨fun commands => ?_, ?_, hanswers.2.2 "(mean(A0:A0)+1)"⟩
  · obtain ⟨result, h, -⟩ := (hanswers.1 commands).1 hfits
    exact ⟨result, h⟩
  · refine (hanswers.2.1 _).imp_right fun h => ?_
    obtain ⟨result, h, -⟩ := h
    exact ⟨result, h⟩

-- ============================================================== deep sums

/-- Where no limit of length keeps it out, a sum of ones is accepted if the
stack has no end, and one that is long enough is too deep for any that has. -/
theorem Sheet.edit_ones {s : Sheet} {i : Int} (hs : s.Current)
    (hsettings : s.settings.Proper) (hlimit : s.settings.maxLength = none)
    (hresolve : s.resolve target = .ok i) (stack : Nat) :
    let content := s.settings.marker ++ (Expr.ones stack).render
    (∃ p, s.edit target content = .ok (.ok p)) ∧
      s.editWithin stack target content = .error .tooDeep := by
  intro content
  have hbody : s.settings.body? content = some (Expr.ones stack).render :=
    Settings.body?_marker (Expr.one_mem_render stack) (by decide)
  obtain ⟨tree, hparse, hadds, hheight⟩ :=
    Expr.exists_ofText_ones s.settings.registry.names stack
  rw [← hlimit] at hparse
  obtain ⟨v, hv⟩ := hadds.run (s.grid.source i) s.settings.registry .empty
  have heval : s.grid.evaluate i content s.settings =
      .ok (.ok ((s.grid.cellAt i).withFormula content ⟨v, []⟩)) := by
    unfold Grid.evaluate
    rw [evaluateBy_formula (cell_of_mem (mem_of_resolve hresolve)) hbody,
      evaluateFormula_of_tree hparse]
    unfold Expr.evaluate
    rw [hv]
    rfl
  have hedit : ∃ p, s.edit target content = .ok (.ok p) :=
    Sheet.edit_of_evaluate hs.faithful.toCoherent hsettings hresolve heval
  refine ⟨hedit, ?_⟩
  obtain ⟨p, hp⟩ := hedit
  refine (cutShort_editWithin.of_ok hp).resolve_right fun h => ?_
  have := (fits_of_editWithin h _ hbody).evaluation tree hparse
  omega

/-- A thousand calls are not enough for a thousand signs. -/
theorem deep_sum_not_answered :
    let s := Sheet.mk twoCells .standard
    let content := "=" ++ (Expr.ones 1000).render
    (∃ p, s.edit (.name "A0") content = .ok (.ok p)) ∧
      s.editWithin 1000 (.name "A0") content = .error .tooDeep := by
  intro s content
  have hresolve : s.resolve (.name "A0") = .ok 0 := rfl
  have hsettings : Settings.standard.Proper :=
    ⟨fun n hn => (by cases hn), Or.inl rfl⟩
  exact Sheet.edit_ones (.of_empty empty_twoCells) hsettings rfl hresolve 1000

end

end Worksheet
