import GradleLint.Text.Basic

/-!
# Capture buffers

What a process prints is captured in chunks.  Once a buffer is released its chunks are gone for
good: nothing can be added to it or read from it, and releasing it again changes nothing.
-/

namespace GradleLint

/-- The captured output of one process. -/
inductive Capture where
  /-- The chunks so far, oldest first. -/
  | live (chunks : List Text)
  | released
deriving DecidableEq, Repr

/-- The complaint about the use of a released buffer. -/
inductive CaptureError where
  | released
deriving DecidableEq, Repr

/-- What is said about the use of a released buffer. -/
def CaptureError.message : CaptureError → Text
  | .released => "capture buffer has already been released"

namespace Capture

/-- The buffer of a process that has printed nothing. -/
def empty : Capture := .live []

/-- Whether the output has been dropped. -/
def isReleased : Capture → Bool
  | live _ => false
  | released => true

/-- Adds a chunk. -/
def append (chunk : Text) : Capture → Except CaptureError Capture
  | live chunks => .ok (live (chunks ++ [chunk]))
  | released => .error .released

/-- Everything captured so far. -/
def text : Capture → Except CaptureError Text
  | live chunks => .ok chunks.flatten
  | released => .error .released

/-! ## Sequences of operations -/

/-- An operation on a buffer.  Entering and leaving bracket the use of a buffer, and leaving
releases it. -/
inductive Op where
  | append (chunk : Text)
  | text
  | release
  | enter
  | leave
deriving DecidableEq, Repr

/-- What an operation answers. -/
inductive Reply where
  | done
  | entered
  | captured (t : Text)
  | refused (e : CaptureError)
deriving DecidableEq, Repr

/-- Performs one operation. -/
def step (c : Capture) : Op → Capture × Reply
  | .append chunk =>
    match c.append chunk with
    | .ok c' => (c', .done)
    | .error e => (c, .refused e)
  | .text =>
    match c.text with
    | .ok t => (c, .captured t)
    | .error e => (c, .refused e)
  | .release => (released, .done)
  | .enter => (c, .entered)
  | .leave => (released, .done)

/-- Performs operations in order; the buffer and the answer after each. -/
def run (c : Capture) : List Op → List (Capture × Reply)
  | [] => []
  | op :: ops => step c op :: run (step c op).1 ops

end Capture

end GradleLint
