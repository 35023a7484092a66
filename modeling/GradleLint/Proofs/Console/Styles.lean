import GradleLint.Console.Styled
import GradleLint.Proofs.Text.Fields

/-!
# Text without its styles

`Text.withoutStyles` takes the escape sequences that set a style out of a text.  A styled text whose
characters are no control characters, line feeds apart, is shown on a terminal as its characters
with such sequences in between, so that nothing but the characters and a last line feed is left
without them (`StyledText.shows_toTerminal`).  A text in one style is shown line by line, the empty
lines bare (`StyledText.toTerminal_ofText`).

Where texts follow each other, sequences must not run together.  `Text.Shows` says of a text what is
left of it whatever comes behind it, and is kept when texts are put together.
-/

namespace GradleLint

/-! ## Sequences that set a style -/

namespace Text

/-- A character of the parameters of an escape sequence. -/
def isStyleParameter (c : Char) : Bool := c.isDigit || c == ';' || c == ':'

/-- What comes behind a sequence that sets a style, when the text starts behind the escape
character. -/
def afterStyle? : Text → Option Text
  | '[' :: r =>
    match r.dropWhile isStyleParameter with
    | 'm' :: rest => some rest
    | _ => none
  | _ => none

lemma length_of_afterStyle? {t rest : Text} (h : afterStyle? t = some rest) :
    rest.length < t.length := by
  unfold afterStyle? at h
  split at h
  · rename_i r
    split at h
    · rename_i rest' hdrop
      obtain rfl := Option.some.inj h
      have hle := (List.dropWhile_suffix isStyleParameter (l := r)).length_le
      rw [hdrop, List.length_cons] at hle
      rw [List.length_cons]
      omega
    · cases h
  · cases h

/-- The text without the escape sequences that set a style. -/
def withoutStyles (t : Text) : Text :=
  match t with
  | [] => []
  | c :: r =>
    if c = '\x1B' then
      match h : afterStyle? r with
      | some rest =>
        have := length_of_afterStyle? h
        withoutStyles rest
      | none => c :: withoutStyles r
    else c :: withoutStyles r
termination_by t.length

lemma withoutStyles_nil : withoutStyles [] = [] := by rw [withoutStyles]

lemma withoutStyles_cons {c : Char} (h : c ≠ '\x1B') (t : Text) :
    withoutStyles (c :: t) = c :: withoutStyles t := by
  rw [withoutStyles, if_neg h]

lemma withoutStyles_sequence {t rest : Text} (h : afterStyle? t = some rest) :
    withoutStyles ('\x1B' :: t) = withoutStyles rest := by
  rw [withoutStyles, if_pos rfl]
  split
  · rename_i rest' hrest
    rw [h] at hrest
    rw [Option.some.inj hrest]
  · rename_i hnone
    rw [h] at hnone
    cases hnone

/-- Without the sequences in it the text is `p`, whatever comes behind it. -/
def Shows (t p : Text) : Prop := ∀ rest, withoutStyles (t ++ rest) = p ++ withoutStyles rest

namespace Shows

variable {t t' p p' : Text}

lemma withoutStyles_eq (h : Shows t p) : t.withoutStyles = p := by
  simpa [withoutStyles_nil] using h []

lemma nil : Shows [] [] := fun _ => rfl

lemma append (h : Shows t p) (h' : Shows t' p') : Shows (t ++ t') (p ++ p') := fun rest => by
  rw [List.append_assoc, h, h', List.append_assoc]

lemma of_escape_not_mem (h : '\x1B' ∉ t) : Shows t t := by
  induction t with
  | nil => exact nil
  | cons c t ih =>
    obtain ⟨hc, ht⟩ : '\x1B' ≠ c ∧ '\x1B' ∉ t := by simpa using h
    intro rest
    rw [List.cons_append, withoutStyles_cons (Ne.symm hc), ih ht, List.cons_append]

lemma flatMap {α : Type} {f g : α → Text} {l : List α} (h : ∀ a ∈ l, Shows (f a) (g a)) :
    Shows (l.flatMap f) (l.flatMap g) := by
  induction l with
  | nil => exact nil
  | cons a l ih =>
    rw [List.flatMap_cons, List.flatMap_cons]
    exact (h a List.mem_cons_self).append (ih fun b hb => h b (List.mem_cons_of_mem a hb))

lemma join {α : Type} {sep : Text} {f g : α → Text} {l : List α} (hsep : '\x1B' ∉ sep)
    (h : ∀ a ∈ l, Shows (f a) (g a)) :
    Shows (Text.join sep (l.map f)) (Text.join sep (l.map g)) := by
  induction l with
  | nil => exact nil
  | cons a l ih =>
    have ha := h a List.mem_cons_self
    cases l with
    | nil => simpa [Text.join] using ha
    | cons b l =>
      have hrest := ih fun c hc => h c (List.mem_cons_of_mem a hc)
      exact ha.append ((of_escape_not_mem hsep).append hrest)

end Shows
end Text

/-- The sequence that switches a style on. -/
def Style.opening (s : Style) : Text := "\x1B[" ++ s.code ++ "m"

/-- The sequence that switches all styles off. -/
def Style.closing : Text := "\x1B[0m"

lemma Style.shows_opening (s : Style) : s.opening.Shows [] := by
  intro rest
  cases s <;> exact Text.withoutStyles_sequence rfl

lemma Style.shows_closing : closing.Shows [] := fun _ => Text.withoutStyles_sequence rfl

/-! ## Texts without control characters -/

/-- A control character. -/
def isControl (c : Char) : Bool := c.toNat < 0x20 || (0x7F ≤ c.toNat && c.toNat ≤ 0x9F)

/-- A text without control characters other than line feeds. -/
def Text.ControlFree (t : Text) : Prop := ∀ c ∈ t, isControl c → c = '\n'

instance (t : Text) : Decidable t.ControlFree :=
  List.decidableBAll (fun c => isControl c → c = '\n') t

lemma Text.ControlFree.not_mem {t : Text} (h : t.ControlFree) {c : Char} (hcontrol : isControl c)
    (hbreak : c ≠ '\n') : c ∉ t := fun hc => hbreak (h c hc hcontrol)

lemma Text.ControlFree.append {t u : Text} (ht : t.ControlFree) (hu : u.ControlFree) :
    (t ++ u).ControlFree := fun c hc =>
  (List.mem_append.mp hc).elim (ht c) (hu c)

lemma Text.ControlFree.of_subset {t u : Text} (h : u.ControlFree) (hsub : t ⊆ u) : t.ControlFree :=
  fun c hc => h c (hsub hc)

lemma isControl_of_isHidden {c : Char} (h : StyledText.isHidden c) : isControl c ∧ c ≠ '\n' := by
  simp only [StyledText.isHidden, Bool.or_eq_true, beq_iff_eq] at h
  obtain (((rfl | rfl) | rfl) | rfl) | rfl := h <;> decide

namespace StyledText

/-! ## Stretches -/

lemma flatMap_stretches (t : StyledText) : (stretches t).flatMap (·.2) = t.plain := by
  induction t with
  | nil => rfl
  | cons c t ih =>
    obtain ⟨c, s⟩ := c
    rw [plain, List.map_cons, ← plain, ← ih, stretches]
    cases stretches t with
    | nil => rfl
    | cons first rest =>
      dsimp only
      split_ifs <;> rfl

/-- A text in one style is one stretch, unless it is empty. -/
lemma stretches_ofText (s : Option Style) {t : Text} (h : t ≠ []) :
    stretches (ofText s t) = [(s, t)] := by
  induction t with
  | nil => exact absurd rfl h
  | cons c t ih =>
    rw [ofText, List.map_cons, ← ofText, stretches]
    cases t with
    | nil => rfl
    | cons d t =>
      rw [ih (List.cons_ne_nil d t)]
      exact if_pos rfl

lemma shows_showStretch {s : Option Style} {t : Text} (h : '\x1B' ∉ t) :
    (showStretch (s, t)).Shows t := by
  cases s with
  | none => exact .of_escape_not_mem h
  | some s =>
    have hopened := s.shows_opening.append (Text.Shows.of_escape_not_mem h)
    have hshown := hopened.append Style.shows_closing
    rw [List.nil_append, List.append_nil] at hshown
    exact hshown

/-! ## Lines -/

lemma map_plain_lines (t : StyledText) : (lines t).map plain = t.plain.fields '\n' := by
  induction t with
  | nil => rfl
  | cons c t ih =>
    obtain ⟨c, s⟩ := c
    rw [plain, List.map_cons, ← plain, lines, Text.fields, ← ih]
    by_cases hc : c = '\n'
    · rw [if_pos hc, if_pos hc]
      rfl
    · rw [if_neg hc, if_neg hc]
      cases lines t <;> rfl

lemma lines_ofText (s : Option Style) (t : Text) :
    lines (ofText s t) = (t.fields '\n').map (ofText s) := by
  induction t with
  | nil => rfl
  | cons c t ih =>
    rw [ofText, List.map_cons, ← ofText, lines, Text.fields, ih]
    by_cases hc : c = '\n'
    · rw [if_pos hc, if_pos hc]
      rfl
    · rw [if_neg hc, if_neg hc]
      cases Text.fields '\n' t <;> rfl

lemma tabbedParts_of_not_mem {l : StyledText} (h : '\t' ∉ l.plain) : tabbedParts l = [l] := by
  induction l with
  | nil => rfl
  | cons c l ih =>
    obtain ⟨c, s⟩ := c
    obtain ⟨hc, hl⟩ : '\t' ≠ c ∧ '\t' ∉ plain l := by simpa [plain] using h
    rw [tabbedParts, if_neg (Ne.symm hc), ih hl]

lemma expandTabs_of_not_mem {l : StyledText} (h : '\t' ∉ l.plain) : expandTabs l = [l] := by
  have halign : alignPart 0 l = l := by
    unfold alignPart
    split
    · rename_i s hlast
      have hmem : ('\t', s) ∈ l := List.mem_of_getLast? hlast
      exact absurd (List.mem_map_of_mem (f := (·.1)) hmem) h
    · rfl
  rw [expandTabs, tabbedParts_of_not_mem h]
  show [alignPart 0 l] = [l]
  rw [halign]

/-! ## On the terminal -/

/-- Without control characters nothing is hidden and no tab is to be expanded. -/
lemma toTerminal_of_controlFree {t : StyledText} (h : t.plain.ControlFree) :
    t.toTerminal =
      Text.join ['\n'] ((lines t).map fun l => (stretches l).flatMap showStretch) ++ ['\n'] := by
  have hshown : t.filter (fun c => !isHidden c.1) = t := by
    refine List.filter_eq_self.mpr fun c hc => ?_
    have hplain : c.1 ∈ t.plain := List.mem_map_of_mem hc
    cases hhidden : isHidden c.1 with
    | false => rfl
    | true =>
      obtain ⟨hcontrol, hbreak⟩ := isControl_of_isHidden hhidden
      exact absurd hplain (h.not_mem hcontrol hbreak)
  have hline : ∀ l ∈ lines t, showLine l = (stretches l).flatMap showStretch := by
    intro l hl
    have hfield : l.plain ∈ t.plain.fields '\n' := by
      rw [← map_plain_lines]
      exact List.mem_map_of_mem hl
    have htab : '\t' ∉ l.plain := fun htab =>
      h.not_mem (by decide) (by decide) (Text.mem_of_mem_fields hfield htab).1
    rw [showLine, expandTabs_of_not_mem htab, List.flatMap_singleton]
  rw [toTerminal, hshown, List.map_congr_left hline]

/-- Without control characters a styled text is shown as its characters, between sequences that set
styles. -/
lemma shows_toTerminal {t : StyledText} (h : t.plain.ControlFree) :
    t.toTerminal.Shows (t.plain ++ ['\n']) := by
  have hlines : ∀ l ∈ lines t, Text.Shows ((stretches l).flatMap showStretch) (plain l) := by
    intro l hl
    have hfield : plain l ∈ t.plain.fields '\n' := by
      rw [← map_plain_lines]
      exact List.mem_map_of_mem hl
    have hescape : '\x1B' ∉ plain l := fun hescape =>
      h.not_mem (by decide) (by decide) (Text.mem_of_mem_fields hfield hescape).1
    rw [← flatMap_stretches] at hescape ⊢
    exact Text.Shows.flatMap fun stretch hstretch => shows_showStretch fun hmem =>
      hescape (List.mem_flatMap.mpr ⟨stretch, hstretch, hmem⟩)
  have hjoin : Text.Shows (Text.join ['\n'] _) (Text.join ['\n'] _) := .join (by decide) hlines
  rw [map_plain_lines, Text.join_fields] at hjoin
  rw [toTerminal_of_controlFree h]
  exact hjoin.append (.of_escape_not_mem (by decide))

lemma plain_ofText (s : Option Style) (t : Text) : (ofText s t).plain = t := by
  rw [ofText, plain, List.map_map]
  exact List.map_id t

lemma plain_append (t u : StyledText) : (t ++ u).plain = t.plain ++ u.plain := List.map_append

lemma ofText_append (s : Option Style) (t u : Text) :
    ofText s (t ++ u) = ofText s t ++ ofText s u := List.map_append

/-- A line of a text in one style as it is shown. -/
def showLineIn (s : Option Style) (l : Text) : Text := if l = [] then [] else showStretch (s, l)

/-- A text in one style is shown line by line. -/
lemma toTerminal_ofText (s : Option Style) {t : Text} (h : t.ControlFree) :
    (ofText s t).toTerminal =
      Text.join ['\n'] ((t.fields '\n').map (showLineIn s)) ++ ['\n'] := by
  have hline : ∀ l : Text, (stretches (ofText s l)).flatMap showStretch = showLineIn s l := by
    intro l
    unfold showLineIn
    split_ifs with hl
    · rw [hl]
      rfl
    · rw [stretches_ofText s hl, List.flatMap_singleton]
  rw [toTerminal_of_controlFree (by rwa [plain_ofText]), lines_ofText, List.map_map]
  simp only [Function.comp_def, hline]

/-- A text without a style is shown as it is. -/
lemma toTerminal_unstyled {t : Text} (h : t.ControlFree) :
    (ofText none t).toTerminal = t ++ ['\n'] := by
  have hline : showLineIn none = id := by
    funext l
    unfold showLineIn
    split_ifs with hl
    · exact hl.symm
    · rfl
  rw [toTerminal_ofText none h, hline, List.map_id, Text.join_fields]

end StyledText

end GradleLint
