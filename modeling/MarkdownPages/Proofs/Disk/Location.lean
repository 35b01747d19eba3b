import Mathlib.Data.List.Basic
import MarkdownPages.Disk
import MarkdownPages.Proofs.Files.Memory

/-!
# Where paths lead

A path leads to a location that its components determine, if it leads anywhere.  Whether it does
depends on the directories of the disk; the files on its way only tell why it does not.  So reading
and writing depend on few locations, and writing a file changes no other one.
-/

namespace MarkdownPages.Disk

open Text

variable {disk other : Disk} {current path : Path} {here there : Location} {parts : List Text}

/-! ## Files -/

theorem file?_put_self (disk : Disk) (at_ : Location) (bytes : List Nat) :
    (disk.put at_ bytes).file? at_ = some bytes := by
  simp [file?, put]

theorem file?_put_of_ne {at_ there : Location} (h : at_ ≠ there) (disk : Disk)
    (bytes : List Nat) : (disk.put there bytes).file? at_ = disk.file? at_ := by
  have hother : (at_ == there) = false := by simpa using h
  simpa [file?, put, remove, List.lookup_cons, hother, bne, beq_eq_decide] using
    lookup_filter_of_ne h disk.files

def putAll (disk : Disk) (writes : List (Location × List Nat)) : Disk :=
  writes.foldl (fun disk write => disk.put write.1 write.2) disk

@[simp] theorem putAll_nil (disk : Disk) : disk.putAll [] = disk := rfl

@[simp] theorem putAll_cons (disk : Disk) (write : Location × List Nat)
    (writes : List (Location × List Nat)) :
    disk.putAll (write :: writes) = (disk.put write.1 write.2).putAll writes := rfl

theorem file?_putAll {at_ : Location} {bytes : List Nat} {writes : List (Location × List Nat)}
    (hsame : ∀ write ∈ writes, write.1 = at_ → write.2 = bytes)
    (hthere : disk.file? at_ = some bytes ∨ at_ ∈ writes.map Prod.fst) :
    (disk.putAll writes).file? at_ = some bytes := by
  induction writes generalizing disk with
  | nil => simpa using hthere
  | cons write writes ih =>
      rw [List.forall_mem_cons] at hsame
      rw [putAll_cons]
      refine ih hsame.2 ?_
      by_cases hat : write.1 = at_
      · exact .inl (by rw [hat, file?_put_self, hsame.1 hat])
      · rcases hthere with hfile | hmem
        · exact .inl (by rw [file?_put_of_ne (Ne.symm hat), hfile])
        · rw [List.map_cons, List.mem_cons] at hmem
          exact .inr (hmem.resolve_left (Ne.symm hat))

/-! ## Walks -/

/-- Where a walk ends if nothing is in its way. -/
def goal (here : Location) : List Text → Location
  | [] => here
  | part :: parts =>
    if part = "..".toList then goal here.dropLast parts else goal (here ++ [part]) parts

/-- The locations on the way of a walk, without the one where it ends. -/
def passed (here : Location) : List Text → List Location
  | [] => []
  | part :: parts =>
    if part = "..".toList then passed here.dropLast parts
    else if parts.isEmpty then []
    else (here ++ [part]) :: passed (here ++ [part]) parts

theorem eq_goal_of_walk (h : disk.walk here parts = .ok there) : there = goal here parts := by
  induction parts generalizing here with
  | nil => exact (Except.ok.inj h).symm
  | cons part parts ih =>
      rw [walk] at h
      rw [goal]
      split at h
      · rename_i hup
        rw [if_pos hup]
        exact ih h
      · rename_i hdown
        rw [if_neg hdown]
        dsimp only at h
        split at h
        · exact ih h
        · split at h <;> cases h

theorem walk_of_isDirectory (hdirectory : ∀ at_, disk.isDirectory at_ = other.isDirectory at_)
    (h : disk.walk here parts = .ok there) : other.walk here parts = .ok there := by
  induction parts generalizing here with
  | nil => exact h
  | cons part parts ih =>
      rw [walk] at h ⊢
      split at h
      · rename_i hup
        rw [if_pos hup]
        exact ih h
      · rename_i hdown
        rw [if_neg hdown]
        dsimp only at h ⊢
        split at h
        · rename_i hopen
          rw [if_pos (by rwa [← hdirectory])]
          exact ih h
        · split at h <;> cases h

theorem walk_congr (hdirectory : ∀ at_, disk.isDirectory at_ = other.isDirectory at_)
    (hpassed : ∀ at_ ∈ passed here parts, disk.file? at_ = other.file? at_) :
    disk.walk here parts = other.walk here parts := by
  induction parts generalizing here with
  | nil => rfl
  | cons part parts ih =>
      rw [passed] at hpassed
      rw [walk, walk]
      split at hpassed
      · rename_i hup
        rw [if_pos hup, if_pos hup]
        exact ih hpassed
      · rename_i hdown
        rw [if_neg hdown, if_neg hdown]
        dsimp only
        split at hpassed
        · rename_i hempty
          obtain rfl := List.isEmpty_iff.mp hempty
          rfl
        · rename_i hmore
          rw [List.forall_mem_cons] at hpassed
          rw [hdirectory, hpassed.1, ih hpassed.2]

/-! ## Locations of paths -/

def location (current path : Path) : Location := goal [] (current.join path).parts

def trail (current path : Path) : List Location := passed [] (current.join path).parts

theorem eq_location_of_locate (h : disk.locate current path = .ok there) :
    there = location current path := by
  unfold locate at h
  split at h
  · cases h
  · split at h
    · rename_i hwalk
      cases h
      exact eq_goal_of_walk hwalk
    · cases h
    · cases h

theorem locate_of_isDirectory (hdirectory : ∀ at_, disk.isDirectory at_ = other.isDirectory at_)
    (h : disk.locate current path = .ok there) : other.locate current path = .ok there := by
  unfold locate at h ⊢
  split at h
  · cases h
  · rename_i hnull
    rw [if_neg hnull]
    split at h
    · rename_i hwalk
      rw [walk_of_isDirectory hdirectory hwalk]
      exact h
    · cases h
    · cases h

theorem locate_congr (hdirectory : ∀ at_, disk.isDirectory at_ = other.isDirectory at_)
    (htrail : ∀ at_ ∈ trail current path, disk.file? at_ = other.file? at_) :
    disk.locate current path = other.locate current path := by
  rw [locate, locate, walk_congr hdirectory htrail]

theorem isDirectory_congr (h : disk.directories = other.directories) (at_ : Location) :
    disk.isDirectory at_ = other.isDirectory at_ := by
  rw [isDirectory, isDirectory, h]

/-! ## Reading and writing -/

theorem readText_of_locate (h : disk.locate current path = other.locate current path)
    (hdirectory : ∀ at_, disk.isDirectory at_ = other.isDirectory at_)
    (hfile : disk.file? (location current path) = other.file? (location current path)) :
    disk.readText current path = other.readText current path := by
  rw [readText, readText, readBytes, readBytes, h]
  cases hlocate : other.locate current path with
  | error e => rfl
  | ok there =>
      obtain rfl := eq_location_of_locate hlocate
      simp only [bind, Except.bind, hdirectory, hfile]

theorem readText_congr (hdirectories : disk.directories = other.directories)
    (htrail : ∀ at_ ∈ trail current path, disk.file? at_ = other.file? at_)
    (hfile : disk.file? (location current path) = other.file? (location current path)) :
    disk.readText current path = other.readText current path :=
  readText_of_locate (locate_congr (isDirectory_congr hdirectories) htrail)
    (isDirectory_congr hdirectories) hfile

theorem readText_of_ok {s : Text} (hdirectories : disk.directories = other.directories)
    (hfile : disk.file? (location current path) = other.file? (location current path))
    (h : disk.readText current path = .ok s) : other.readText current path = .ok s := by
  -- A file that can be read can be read whatever files there are besides.
  cases hlocate : disk.locate current path with
  | error e => simp [readText, readBytes, hlocate, bind, Except.bind] at h
  | ok there =>
      have hdirectory := isDirectory_congr hdirectories
      have hsame := locate_of_isDirectory hdirectory hlocate
      rw [← readText_of_locate (hlocate.trans hsame.symm) hdirectory hfile, h]

theorem writeText_eq_ok_iff {s : Text} {next : Disk} :
    disk.writeText current path s = .ok next ↔
      disk.locate current path = .ok (location current path) ∧
        disk.isDirectory (location current path) = false ∧
        next = disk.put (location current path) (encodeUtf8 s) := by
  rw [writeText, writeBytes]
  cases hlocate : disk.locate current path with
  | error e => simp [bind, Except.bind]
  | ok there =>
      obtain rfl := eq_location_of_locate hlocate
      cases hdirectory : disk.isDirectory (location current path) <;>
        simp [bind, Except.bind, hdirectory, eq_comm]

theorem writeText_congr (s : Text) (hdirectories : disk.directories = other.directories)
    (htrail : ∀ at_ ∈ trail current path, disk.file? at_ = other.file? at_) :
    other.writeText current path s =
      (disk.writeText current path s).map fun _ =>
        other.put (location current path) (encodeUtf8 s) := by
  -- What is at the location itself does not matter when it is written.
  rw [writeText, writeText, writeBytes, writeBytes,
    ← locate_congr (isDirectory_congr hdirectories) htrail]
  cases hlocate : disk.locate current path with
  | error e => rfl
  | ok there =>
      obtain rfl := eq_location_of_locate hlocate
      simp only [bind, Except.bind, isDirectory_congr hdirectories]
      split <;> rfl

end MarkdownPages.Disk
