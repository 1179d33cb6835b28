import Mathlib.Data.List.Basic
import Mathlib.Logic.Function.Basic

/-! # Writing whole files

A file either does not exist or has its contents. Writing creates or truncates it and
then writes the contents; a failure may come before the file is touched, or leave it
with a beginning of the contents.
-/

namespace MangleWebRTC.Machine

universe uPath uError

/-- The files that exist, with their contents. -/
abbrev Files (Path : Type uPath) : Type uPath := Path → Option (List UInt8)

/-- A failed write: of the creation, or with so many bytes written. -/
inductive WriteFault (Error : Type uError) where
  | create (error : Error)
  | write (error : Error) (written : Nat)
  deriving DecidableEq, Repr

section Write

variable {Path : Type uPath} {Error : Type uError} [DecidableEq Path]

/-- Create or truncate a file and write all of its contents. With a failure at least the
last byte is missing. -/
def writeFile (files : Files Path) (path : Path) (contents : List UInt8) :
    Option (WriteFault Error) → Files Path × Except Error Unit
  | none => (Function.update files path (some contents), .ok ())
  | some (.create error) => (files, .error error)
  | some (.write error written) =>
      (Function.update files path (some (contents.dropLast.take written)), .error error)

variable {files : Files Path} {path : Path} {contents : List UInt8}

theorem writeFile_frame {other : Path} (hother : other ≠ path)
    (fault : Option (WriteFault Error)) :
    (writeFile files path contents fault).1 other = files other := by
  match fault with
  | none | some (.write _ _) => exact Function.update_of_ne hother _ _
  | some (.create _) => rfl

/-- A file that was not there has the contents after a write without failure only. -/
theorem writeFile_eq_contents_iff (hcontents : contents ≠ []) (habsent : files path = none)
    (fault : Option (WriteFault Error)) :
    (writeFile files path contents fault).1 path = some contents ↔ fault = none := by
  match fault with
  | none => simp [writeFile]
  | some (.create _) => simp [writeFile, habsent]
  | some (.write _ written) =>
      have hlength : 0 < contents.length := List.length_pos_iff.mpr hcontents
      have hshort : contents.dropLast.take written ≠ contents := by
        intro heq
        have htaken := congrArg List.length heq
        rw [List.length_take, List.length_dropLast] at htaken
        omega
      simp [writeFile, hshort]

/-- A file that was not there is not there after a failed creation only. -/
theorem writeFile_eq_none_iff (habsent : files path = none)
    (fault : Option (WriteFault Error)) :
    (writeFile files path contents fault).1 path = none ↔
      ∃ error, fault = some (.create error) := by
  match fault with
  | none | some (.write _ _) => simp [writeFile]
  | some (.create _) => simp [writeFile, habsent]

end Write

end MangleWebRTC.Machine
