import GradleLint.Text.Quoted

/-!
# Failures of the operating system

What the operating system says when it cannot look up a path, read a file, start a process or
signal one: the number of the failure, its description, and the file it is about, if any.
-/

namespace GradleLint

/-- A failure that the operating system reports. -/
structure SystemError where
  number : Int
  description : Text
  file : Option Text
deriving DecidableEq, Repr

namespace SystemError

/-- What is said about a failure of the operating system. -/
def message (e : SystemError) : Text :=
  let file : Text := match e.file with
    | none => []
    | some f => ": " ++ Quoted.encode f
  "[Errno " ++ Text.ofInt e.number ++ "] " ++ e.description ++ file

/-- The failure to find an entry at a path. -/
def missing (path : Text) : SystemError := ⟨2, "No such file or directory", some path⟩

/-- The failure to tell where the working directory is, which has been removed. -/
def removed : SystemError := ⟨2, "No such file or directory", none⟩

/-- The failure to use a file or a directory without permission. -/
def forbidden (path : Text) : SystemError := ⟨13, "Permission denied", some path⟩

/-- The failure to go through a file. -/
def notDirectory (path : Text) : SystemError := ⟨20, "Not a directory", some path⟩

/-- The failure to read a directory as a file. -/
def isDirectory (path : Text) : SystemError := ⟨21, "Is a directory", some path⟩

/-- The failure to look up a name that is too long. -/
def nameTooLong (path : Text) : SystemError := ⟨36, "File name too long", some path⟩

/-- The failure to follow links without end. -/
def tooManyLinks (path : Text) : SystemError :=
  ⟨40, "Too many levels of symbolic links", some path⟩

/-- The refusal to signal a process of somebody else. -/
def notPermitted : SystemError := ⟨1, "Operation not permitted", none⟩

end SystemError

end GradleLint
