import GradleLint.Console.Report
import GradleLint.Proofs.Console.Styles
import GradleLint.Proofs.Text.Numeral

/-!
# Reports in every presentation

What is reported of an outcome does not depend on how it is shown: a status, an entry for each
diagnostic in order, and a summary with its tone (`Outcome.report?`).  A display adds the symbol of
the tone, if symbols are wanted, and sets styles, if colour is shown.

Without the sequences that set styles the printed text is the same everywhere, and where no colour
is shown there are none (`Display.report_presented`).  Without the symbol the rest stays as it is,
with one exception: styles are set line by line and not around nothing, so a symbol that is alone on
its line takes the sequences around it along when it goes (`Display.symbol_leaves_with_style`).
-/

namespace GradleLint

/-! ## What is reported -/

/-- The symbol of a tone, if symbols are wanted. -/
def Tone.mark (tone : Tone) (emoji : Bool) : Text := if emoji then tone.symbol else []

/-- What is reported of an outcome, however it is shown. -/
structure Report where
  status : Nat
  /-- The diagnostics as they are reported. -/
  entries : List Text
  tone : Tone
  summary : Text

/-- A diagnostic as it is reported. -/
def Diagnostic.entry (path : Path) (d : Diagnostic) : Text :=
  d.location path ++ ": " ++ d.severity.word ++ ": " ++ d.message

/-- What is reported of an outcome; nothing for a superseded run. -/
def Outcome.report? (path : Path) : Outcome → Option Report
  | .noIssues => some ⟨0, [], .ok, "No build diagnostics for " ++ path.name⟩
  | .issues _ diagnostics => some ⟨1, diagnostics.map (·.entry path), .warn,
      Text.ofNat diagnostics.length ++ " diagnostic(s) reported for " ++ path.name⟩
  | .toolError description => some ⟨2, [], .fail, description⟩
  | .superseded _ => none

namespace Report

/-- The lines above the summary. -/
def above (r : Report) : Text := r.entries.flatMap (· ++ ['\n'])

/-- The first line of the summary. -/
def firstLine (r : Report) : Text := r.summary.takeWhile (· ≠ '\n')

/-- The text of a report, with the symbol of its tone or without it. -/
def toText (r : Report) (emoji : Bool) : Text :=
  r.above ++ (r.tone.mark emoji ++ r.summary ++ ['\n'])

end Report

lemma Outcome.exists_report {o : Outcome} (h : ∀ pid, o ≠ .superseded pid) (path : Path) :
    ∃ r, o.report? path = some r := by
  cases o with
  | superseded pid => exact absurd rfl (h pid)
  | _ => exact ⟨_, rfl⟩

/-- Only the description of a failure can leave the line of the symbol empty. -/
lemma Outcome.toolError_of_firstLine {o : Outcome} {path : Path} {r : Report}
    (h : o.report? path = some r) (hline : r.firstLine = []) :
    ∃ description, o = .toolError description := by
  cases o with
  | noIssues =>
    obtain rfl := Option.some.inj h
    cases hline
  | issues records diagnostics =>
    obtain rfl := Option.some.inj h
    obtain ⟨c, digits, hdigits⟩ : ∃ c digits, Text.ofNat diagnostics.length = c :: digits :=
      List.exists_cons_of_ne_nil Nat.toDigits_ne_nil
    have hdigit : c.isDigit := Numeral.isDigit_of_mem_ofNat (hdigits ▸ List.mem_cons_self)
    have hbreak : c ≠ '\n' := by
      rintro rfl
      cases hdigit
    rw [Report.firstLine, hdigits, List.cons_append, List.cons_append,
      List.takeWhile_cons_of_pos (by simpa using hbreak)] at hline
    cases hline
  | toolError description => exact ⟨description, rfl⟩
  | superseded pid => cases h

/-- The texts of an outcome that are printed. -/
def Outcome.texts : Outcome → List Text
  | .issues _ diagnostics => diagnostics.map (·.message)
  | .toolError description => [description]
  | _ => []

/-! ## Reports without control characters -/

namespace Text

lemma controlFree_ofNat (n : Nat) : (ofNat n).ControlFree := by
  intro c hc hcontrol
  have hdigit := (isDigit_iff c).mp (Numeral.isDigit_of_mem_ofNat hc)
  simp only [isControl, Bool.or_eq_true, decide_eq_true_eq, Bool.and_eq_true] at hcontrol
  omega

lemma controlFree_ofInt (n : Int) : (ofInt n).ControlFree := by
  have hminus : ControlFree ['-'] := by decide
  cases n with
  | ofNat n => exact controlFree_ofNat n
  | negSucc n => exact hminus.append (controlFree_ofNat (n + 1))

end Text

lemma Tone.controlFree_mark (tone : Tone) (emoji : Bool) : (tone.mark emoji).ControlFree := by
  cases tone <;> cases emoji <;> decide

lemma Tone.not_mem_mark (tone : Tone) (emoji : Bool) : '\n' ∉ tone.mark emoji := by
  cases tone <;> cases emoji <;> decide

lemma Path.name_subset_toText (p : Path) : p.name ⊆ p.toText := by
  unfold name toText
  cases hlast : p.parts.getLast? with
  | none => simp
  | some last =>
    have hmem : last ∈ p.parts := List.mem_of_getLast? hlast
    rw [if_neg fun h => absurd (h.2 ▸ hmem) List.not_mem_nil]
    exact List.subset_append_of_subset_right _ (Text.subset_join hmem)

/-- The texts of a report have no control characters other than line feeds. -/
structure Report.ControlFree (r : Report) : Prop where
  entries : ∀ t ∈ r.entries, t.ControlFree
  summary : r.summary.ControlFree

lemma Report.controlFree_toText {r : Report} (h : r.ControlFree) (emoji : Bool) :
    (r.toText emoji).ControlFree := by
  have hbreak : Text.ControlFree ['\n'] := by decide
  have habove : r.above.ControlFree := fun c hc => by
    obtain ⟨t, ht, hc⟩ := List.mem_flatMap.mp hc
    exact (h.entries t ht).append hbreak c hc
  exact habove.append (((r.tone.controlFree_mark emoji).append h.summary).append hbreak)

lemma Severity.controlFree_word (s : Severity) : s.word.ControlFree := by
  cases s <;> decide

lemma Diagnostic.controlFree_entry {path : Path} (hpath : path.toText.ControlFree) {d : Diagnostic}
    (h : d.message.ControlFree) : (d.entry path).ControlFree := by
  have hcolon : Text.ControlFree ":" := by decide
  have hspaced : Text.ControlFree ": " := by decide
  have hline := Text.controlFree_ofInt d.line
  have hcolumn := Text.controlFree_ofInt d.column
  have hlocation : (d.location path).ControlFree :=
    (((hpath.append hcolon).append hline).append hcolon).append hcolumn
  exact (((hlocation.append hspaced).append d.severity.controlFree_word).append hspaced).append h

lemma Outcome.controlFree_report {path : Path} (hpath : path.toText.ControlFree) {o : Outcome}
    (htexts : ∀ t ∈ o.texts, t.ControlFree) {r : Report} (h : o.report? path = some r) :
    r.ControlFree := by
  have hname : path.name.ControlFree := hpath.of_subset path.name_subset_toText
  cases o with
  | noIssues =>
    obtain rfl := Option.some.inj h
    have hstart : Text.ControlFree "No build diagnostics for " := by decide
    exact ⟨by simp, hstart.append hname⟩
  | issues rs ds =>
    obtain rfl := Option.some.inj h
    have hmiddle : Text.ControlFree " diagnostic(s) reported for " := by decide
    refine ⟨fun t ht => ?_, ((Text.controlFree_ofNat _).append hmiddle).append hname⟩
    obtain ⟨d, hd, rfl⟩ := List.mem_map.mp ht
    exact Diagnostic.controlFree_entry hpath (htexts _ (List.mem_map_of_mem hd))
  | toolError description =>
    obtain rfl := Option.some.inj h
    exact ⟨by simp, htexts description List.mem_cons_self⟩
  | superseded pid => cases h

/-! ## Lines as they are printed -/

namespace Display

variable {display : Display} {path : Path}

/-- What is set in front of text in a style. -/
def opening (display : Display) (s : Style) : Text := if display.colored then s.opening else []

/-- What is set behind text in a style. -/
def closing (display : Display) : Text := if display.colored then Style.closing else []

lemma paint_of_not_colored (h : display.colored = false) (s : Style) : display.paint s = none :=
  if_neg (by simp [h])

lemma showLineIn_paint (display : Display) (s : Style) (l : Text) :
    StyledText.showLineIn (display.paint s) l =
      if l = [] then [] else display.opening s ++ l ++ display.closing := by
  rw [StyledText.showLineIn, paint, opening, closing]
  split_ifs with hl hcolor
  · rfl
  · rfl
  · exact (List.append_nil l).symm

lemma say_eq (display : Display) (tone : Tone) (message : Text) :
    display.say tone message = (StyledText.ofText (display.paint tone.style)
      (tone.mark display.emoji ++ message)).toTerminal := rfl

lemma shows_say (display : Display) (tone : Tone) {message : Text} (h : message.ControlFree) :
    (display.say tone message).Shows (tone.mark display.emoji ++ message ++ ['\n']) := by
  have hplain := StyledText.plain_ofText (display.paint tone.style)
    (tone.mark display.emoji ++ message)
  have hshown := StyledText.shows_toTerminal (by
    rw [hplain]
    exact (tone.controlFree_mark display.emoji).append h)
  rwa [hplain] at hshown

lemma say_of_not_colored (h : display.colored = false) (tone : Tone) {message : Text}
    (hmessage : message.ControlFree) :
    display.say tone message = tone.mark display.emoji ++ message ++ ['\n'] := by
  rw [say_eq, paint_of_not_colored h]
  exact StyledText.toTerminal_unstyled ((tone.controlFree_mark display.emoji).append hmessage)

/-- The symbol and the first line of a message are shown as one line, and what comes behind it does
not depend on the symbol. -/
lemma exists_say_eq (display : Display) (tone : Tone) {message : Text} (h : message.ControlFree) :
    ∃ behind, ∀ emoji : Bool, { display with emoji }.say tone message =
      StyledText.showLineIn (display.paint tone.style)
        (tone.mark emoji ++ message.takeWhile (· ≠ '\n')) ++ behind := by
  obtain ⟨others, hothers⟩ := Text.exists_fields_append '\n' message
  obtain ⟨behind, hbehind⟩ := Text.exists_join_cons ['\n']
    (others.map (StyledText.showLineIn (display.paint tone.style)))
  refine ⟨behind ++ ['\n'], fun emoji => ?_⟩
  rw [say_eq, StyledText.toTerminal_ofText _ ((tone.controlFree_mark emoji).append h),
    hothers _ (tone.not_mem_mark emoji), List.map_cons]
  exact (congrArg (· ++ ['\n']) (hbehind _)).trans (List.append_assoc _ _ _)

/-- The line of a diagnostic with its styles. -/
def styledEntry (display : Display) (path : Path) (d : Diagnostic) : StyledText :=
  .ofText none (d.location path ++ ": ")
    ++ .ofText (display.paint d.severity.style) d.severity.word
    ++ .ofText none (": " ++ d.message)

lemma plain_styledEntry (display : Display) (path : Path) (d : Diagnostic) :
    (display.styledEntry path d).plain = d.entry path := by
  rw [styledEntry, StyledText.plain_append, StyledText.plain_append, StyledText.plain_ofText,
    StyledText.plain_ofText, StyledText.plain_ofText, Diagnostic.entry]
  exact (List.append_assoc _ _ _).symm

/-- The lines of the diagnostics as they are printed. -/
def sayEntries (display : Display) (path : Path) : Outcome → Text
  | .issues _ diagnostics => diagnostics.flatMap fun d => (display.styledEntry path d).toTerminal
  | _ => []

/-- What is printed is the lines of the diagnostics and the summary. -/
lemma report?_eq (display : Display) {doc : Document} {o : Outcome} {r : Report}
    (h : o.report? doc.path = some r) :
    display.report? doc o =
      some (r.status, display.sayEntries doc.path o ++ display.say r.tone r.summary) := by
  cases o with
  | superseded pid => cases h
  | _ =>
    obtain rfl := Option.some.inj h
    rfl

lemma shows_sayEntries (display : Display) {path : Path} {o : Outcome} {r : Report}
    (h : o.report? path = some r) (hfree : r.ControlFree) :
    (display.sayEntries path o).Shows r.above := by
  cases o with
  | issues records diagnostics =>
    obtain rfl := Option.some.inj h
    rw [Report.above, List.flatMap_map]
    refine Text.Shows.flatMap fun d hd => ?_
    have hentry := hfree.entries _ (List.mem_map_of_mem hd)
    rw [← display.plain_styledEntry] at hentry ⊢
    exact StyledText.shows_toTerminal hentry
  | superseded pid => cases h
  | _ =>
    obtain rfl := Option.some.inj h
    exact .nil

lemma sayEntries_of_not_colored (hcolor : display.colored = false) {o : Outcome} {r : Report}
    (h : o.report? path = some r) (hfree : r.ControlFree) :
    display.sayEntries path o = r.above := by
  cases o with
  | issues records diagnostics =>
    obtain rfl := Option.some.inj h
    rw [Report.above, List.flatMap_map]
    refine List.flatMap_congr fun d hd => ?_
    have hentry := hfree.entries _ (List.mem_map_of_mem hd)
    have hstyled : display.styledEntry path d = .ofText none (d.entry path) := by
      rw [styledEntry, paint_of_not_colored hcolor, ← StyledText.ofText_append,
        ← StyledText.ofText_append, Diagnostic.entry]
      exact congrArg _ (List.append_assoc _ _ _).symm
    rw [hstyled]
    exact StyledText.toTerminal_unstyled hentry
  | superseded pid => cases h
  | _ =>
    obtain rfl := Option.some.inj h
    rfl

/-! ## All presentations of a report -/

lemma colored_eq_false_iff (display : Display) :
    display.colored = false ↔ display.terminal = false ∨ display.color = some false := by
  obtain ⟨terminal, color, emoji⟩ := display
  cases terminal <;> cases color <;> simp [colored]

/-- With symbols and without them the same texts stand around the first line of the summary. -/
lemma exists_around_firstLine (display : Display) {doc : Document} {o : Outcome} {r : Report}
    (h : o.report? doc.path = some r) (hfree : r.ControlFree) :
    ∃ above behind, above.withoutStyles = r.above ∧
      { display with emoji := true }.report? doc o = some (r.status,
        above ++ (display.opening r.tone.style ++ (r.tone.symbol ++ r.firstLine) ++ display.closing)
          ++ behind) ∧
      { display with emoji := false }.report? doc o = some (r.status,
        above ++ (if r.firstLine = [] then []
            else display.opening r.tone.style ++ r.firstLine ++ display.closing)
          ++ behind) := by
  obtain ⟨behind, hbehind⟩ := display.exists_say_eq r.tone hfree.summary
  have hsay : ∀ emoji : Bool, { display with emoji }.say r.tone r.summary =
      StyledText.showLineIn (display.paint r.tone.style) (r.tone.mark emoji ++ r.firstLine)
        ++ behind := hbehind
  have habove := display.shows_sayEntries h hfree
  refine ⟨display.sayEntries doc.path o, behind, habove.withoutStyles_eq, ?_, ?_⟩
  · have hsymbol : r.tone.mark true ++ r.firstLine ≠ [] := by
      cases r.tone <;> exact List.cons_ne_nil _ _
    rw [report?_eq _ h, hsay, showLineIn_paint, if_neg hsymbol, ← List.append_assoc _ _ behind]
    rfl
  · rw [report?_eq _ h, hsay, showLineIn_paint, ← List.append_assoc _ _ behind]
    rfl

/-- Every outcome that is not superseded has one report.  Each display prints the text of that
report with the sequences of its styles in it, and without any where no colour is shown.  The symbol
stands with the first line of the summary between texts that are the same without it. -/
theorem report_presented (doc : Document) (o : Outcome) (hreported : ∀ pid, o ≠ .superseded pid)
    (hpath : doc.path.toText.ControlFree) (htexts : ∀ t ∈ o.texts, t.ControlFree) :
    ∃ r, o.report? doc.path = some r ∧
      (∀ display : Display, ∃ text, display.report? doc o = some (r.status, text) ∧
        text.withoutStyles = r.toText display.emoji ∧
        (display.terminal = false ∨ display.color = some false →
          text = r.toText display.emoji ∧ '\x1B' ∉ text)) ∧
      (∀ display : Display, ∃ above behind, above.withoutStyles = r.above ∧
        { display with emoji := true }.report? doc o = some (r.status,
          above ++ (display.opening r.tone.style ++ (r.tone.symbol ++ r.firstLine)
            ++ display.closing) ++ behind) ∧
        { display with emoji := false }.report? doc o = some (r.status,
          above ++ (if r.firstLine = [] then []
            else display.opening r.tone.style ++ r.firstLine ++ display.closing) ++ behind)) ∧
      (r.firstLine = [] → ∃ description, o = .toolError description) ∧
      ∀ records diagnostics, o = .issues records diagnostics →
        r.entries = diagnostics.map (·.entry doc.path) := by
  obtain ⟨r, hr⟩ := Outcome.exists_report hreported doc.path
  have hfree := o.controlFree_report hpath htexts hr
  refine ⟨r, hr, fun display => ?_, fun display => display.exists_around_firstLine hr hfree,
    Outcome.toolError_of_firstLine hr, ?_⟩
  · refine ⟨_, display.report?_eq hr, ?_, fun hcolor => ?_⟩
    · have hentries := display.shows_sayEntries hr hfree
      exact (hentries.append (display.shows_say r.tone hfree.summary)).withoutStyles_eq
    · have hplain := display.colored_eq_false_iff.mpr hcolor
      rw [sayEntries_of_not_colored hplain hr hfree, say_of_not_colored hplain r.tone hfree.summary]
      exact ⟨rfl, (Report.controlFree_toText hfree display.emoji).not_mem (by decide) (by decide)⟩
  · rintro records diagnostics rfl
    exact (congrArg Report.entries (Option.some.inj hr)).symm

/-- A report of two problems, in colour on a terminal. -/
theorem report_of_two_problems :
    let doc : Document := .create (.ofText "/p/A.kt") [] [] 0
    let o : Outcome := .issues []
      [⟨⟨0, 1⟩, .error, "bad", 3, 7⟩, ⟨⟨0, 1⟩, .warning, "odd\nname", 4, 1⟩]
    ∃ text, (⟨true, some true, true⟩ : Display).report? doc o = some (1, text) ∧
      text.withoutStyles = ("/p/A.kt:3:7: error: bad\n/p/A.kt:4:1: warning: odd\nname\n" ++
        "⚠\uFE0F 2 diagnostic(s) reported for A.kt\n" : String) := by
  intro doc o
  obtain ⟨r, hr, hdisplays, -⟩ := report_presented doc o nofun (by decide) (by decide)
  obtain rfl := Option.some.inj hr
  obtain ⟨text, htext, hshown, -⟩ := hdisplays ⟨true, some true, true⟩
  exact ⟨text, htext, hshown.trans (by decide)⟩

/-- A symbol that is alone on its line takes the sequences around it along when it goes. -/
theorem symbol_leaves_with_style :
    let doc : Document := .create (.ofText "/x/A.kt") [] [] 0
    let on : Text := "\x1B[31m❌ \x1B[0m\n"
    let off : Text := "\n"
    (⟨true, some true, true⟩ : Display).report? doc (.toolError []) = some (2, on) ∧
      (⟨true, some true, false⟩ : Display).report? doc (.toolError []) = some (2, off) ∧
      ¬ ∃ before after, on = before ++ Tone.fail.symbol ++ after ∧ off = before ++ after := by
  intro doc on off
  refine ⟨by decide, by decide, ?_⟩
  rintro ⟨before, after, hon, hoff⟩
  -- More characters go than the symbol has.
  have hlengths : on.length = 12 ∧ off.length = 1 ∧ Tone.fail.symbol.length = 2 := by decide
  have hlonger := congrArg List.length hon
  have hshorter := congrArg List.length hoff
  rw [List.length_append, List.length_append] at hlonger
  rw [List.length_append] at hshorter
  omega

end Display
end GradleLint
