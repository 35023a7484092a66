/-!
# Text

A text is a list of code points, so lengths, offsets and columns count code points, and every
operation below is a recursion on the list.

Splitting comes in two forms.  `Text.fields` cuts at one separator character and
`Text.pieces` at a pair of adjacent characters; both give one more part than there are cuts,
so an empty text has exactly one, empty, part.
-/

namespace GradleLint

/-- A sequence of code points. -/
abbrev Text := List Char

instance : Coe String Text := ⟨String.toList⟩

namespace Text

/-! ## Cutting and joining -/

/-- Puts `c` in front of the first part, which is opened when there is none. -/
def consFirst (c : Char) : List Text → List Text
  | [] => [[c]]
  | p :: ps => (c :: p) :: ps

/-- The parts of a text between the occurrences of `sep`. -/
def fields (sep : Char) : Text → List Text
  | [] => [[]]
  | c :: r => if c = sep then [] :: fields sep r else consFirst c (fields sep r)

/-- Of the parts, the first grows and the others stay. -/
theorem mem_consFirst {c : Char} {ps : List Text} {p : Text} (h : p ∈ consFirst c ps) :
    p ∈ ps ∨ ∃ q, p = c :: q ∧ (q = [] ∨ q ∈ ps) := by
  cases ps with
  | nil => exact .inr ⟨[], List.mem_singleton.mp h, .inl rfl⟩
  | cons first rest =>
    obtain rfl | h := List.mem_cons.mp h
    · exact .inr ⟨first, rfl, .inr List.mem_cons_self⟩
    · exact .inl (List.mem_cons_of_mem first h)

/-- The characters of a field are characters of the text other than the separator. -/
theorem mem_of_mem_fields {sep c : Char} {t field : Text} (h : field ∈ fields sep t)
    (hc : c ∈ field) : c ∈ t ∧ c ≠ sep := by
  induction t generalizing field with
  | nil =>
    obtain rfl := List.mem_singleton.mp h
    exact absurd hc List.not_mem_nil
  | cons d r ih =>
    have hrest : ∀ {field}, field ∈ fields sep r → c ∈ field → c ∈ d :: r ∧ c ≠ sep :=
      fun h hc => ⟨List.mem_cons_of_mem d (ih h hc).1, (ih h hc).2⟩
    rw [fields] at h
    by_cases hd : d = sep
    · rw [if_pos hd, List.mem_cons] at h
      obtain rfl | h := h
      · exact absurd hc List.not_mem_nil
      · exact hrest h hc
    · rw [if_neg hd] at h
      obtain h | ⟨q, rfl, hq⟩ := mem_consFirst h
      · exact hrest h hc
      · obtain rfl | hc := List.mem_cons.mp hc
        · exact ⟨List.mem_cons_self, hd⟩
        · obtain rfl | hq := hq
          · exact absurd hc List.not_mem_nil
          · exact hrest hq hc

/-- The parts of a text between the occurrences of `a` directly followed by `b`, taken from the
left without overlap. -/
def pieces (a b : Char) : Text → List Text
  | [] => [[]]
  | [c] => [[c]]
  | c :: d :: r =>
    if c = a ∧ d = b then [] :: pieces a b r else consFirst c (pieces a b (d :: r))

/-- The texts in order with `sep` between neighbours. -/
def join (sep : Text) (ts : List Text) : Text := List.intercalate sep ts

/-! ## Searching -/

/-- Whether `needle` occurs in the text as a run of adjacent characters; the empty needle occurs
everywhere. -/
def includes (needle : Text) : Text → Bool
  | [] => needle.isEmpty
  | c :: r => needle.isPrefixOf (c :: r) || includes needle r

/-- Whether the text starts with `head`; on success, what follows it. -/
def after? (head : Text) (t : Text) : Option Text :=
  match head, t with
  | [], t => some t
  | _ :: _, [] => none
  | a :: hs, b :: ts => if a = b then after? hs ts else none

/-! ## Trimming -/

/-- The text without the longest tail whose characters all satisfy `p`. -/
def trimEndBy (p : Char → Bool) (t : Text) : Text := (t.reverse.dropWhile p).reverse

/-- The text without the longest head and tail whose characters all satisfy `p`. -/
def trimBy (p : Char → Bool) (t : Text) : Text := trimEndBy p (t.dropWhile p)

/-- The text without one carriage return at its end, if it has one. -/
def dropCarriageReturn : Text → Text
  | [] => []
  | [c] => if c = '\r' then [] else [c]
  | c :: d :: r => c :: dropCarriageReturn (d :: r)

/-! ## Decimal numerals -/

/-- The decimal numeral of a natural number. -/
def ofNat (n : Nat) : Text := Nat.toDigits 10 n

/-- The decimal numeral of an integer, negative ones with a hyphen in front. -/
def ofInt : Int → Text
  | .ofNat n => ofNat n
  | .negSucc n => '-' :: ofNat (n + 1)

end Text

end GradleLint
