import GradleLint.Path

/-!
# Output grammars

The compiler of a source file decides in which form diagnostics appear in the build output.  The
form follows from the suffix of the file's name, in which case does not matter.
-/

namespace GradleLint

/-- A form of build output. -/
inductive Grammar where
  | kotlin
  | java
deriving DecidableEq, Repr

/-- The lower-case form of a character, for the characters whose lower-case form is a letter of
ASCII: the capitals of ASCII and the Kelvin sign. -/
def lowerAscii (c : Char) : Char := if c = '\u212A' then 'k' else c.toLower

namespace Grammar

/-- The word that names a grammar. -/
def word : Grammar → Text
  | .kotlin => "kotlin"
  | .java => "java"

/-- The grammar for files with the given suffix. -/
def ofSuffix? (suffix : Text) : Option Grammar :=
  let s := suffix.map lowerAscii
  if s = ".kt" ∨ s = ".kts" then some .kotlin
  else if s = ".java" then some .java
  else none

/-- The grammar for a file. -/
def ofPath? (p : Path) : Option Grammar := ofSuffix? p.suffix

end Grammar

/-- A file whose type has no grammar. -/
structure UnsupportedFile where
  name : Text
deriving DecidableEq, Repr

/-- What is said about a file without grammar. -/
def UnsupportedFile.message (e : UnsupportedFile) : Text :=
  "No build output grammar registered for '" ++ e.name ++ "'"

/-- The grammar for a file, or the complaint that there is none. -/
def Grammar.require (p : Path) : Except UnsupportedFile Grammar :=
  match ofPath? p with
  | some g => .ok g
  | none => .error ⟨p.name⟩

/-- The given grammar, or else the one for the file. -/
def Grammar.choose (given : Option Grammar) (p : Path) : Except UnsupportedFile Grammar :=
  match given with
  | some g => .ok g
  | none => require p

end GradleLint
