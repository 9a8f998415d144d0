import ApiValidators.Files.Store
import Mathlib.Tactic.Common

/-!
# What operations keep

Making folders keeps every file, and every folder that is there already (`makeFolders_keeps`). Writing a file keeps all
other files, and the bytes are where the path leads afterwards (`write_spec`). Paths that lead somewhere go on leading
there, since no folder is lost (`Keeps.locate`).
-/

namespace ApiValidators.Store

variable {s t : Store} {path : List Char} {place start : Place} {bytes : List UInt8}

/-! ## Places of paths -/

/-- The bytes of the file at a place, if there is a file. -/
def file? (s : Store) (place : Place) : Option (List UInt8) :=
  match s.get? place with
  | some (.file bytes) => some bytes
  | _ => none

/-- The place that a path leads to, whether something is there or not. -/
def locate (s : Store) (path : List Char) : Except FileError Place := do s.walk (← pieces path) (s.start path)

theorem file?_eq_some_iff : s.file? place = some bytes ↔ s.get? place = some (.file bytes) := by
  rw [file?]
  split <;> simp_all

theorem file?_congr (h : t.get? place = s.get? place) : t.file? place = s.file? place := by rw [file?, file?, h]

theorem locate_eq_ok_iff :
    s.locate path = .ok place ↔ ∃ ps, pieces path = .ok ps ∧ s.walk ps (s.start path) = .ok place := by
  rw [locate]
  cases pieces path <;> simp [bind, Except.bind]

theorem read_eq_ok_iff :
    s.read path = .ok bytes ↔ ∃ place, s.locate path = .ok place ∧ s.file? place = some bytes := by
  have hread : s.read path = s.locate path >>= fun place => match s.get? place with
      | some (.file bytes) => .ok bytes
      | some .folder => .error .isFolder
      | none => .error .notFound := by
    rw [read, find, locate]
    rcases pieces path with e | ps
    · rfl
    · rcases h : s.walk ps (s.start path) with e | place
      · simp only [bind, Except.bind, h]
      · simp only [bind, Except.bind, h]
        rcases s.get? place with _ | ⟨bytes⟩ | _ <;> rfl
  rw [hread]
  rcases s.locate path with e | place
  · simp [bind, Except.bind]
  · simp only [bind, Except.bind, Except.ok.injEq, exists_eq_left', file?]
    rcases s.get? place with _ | ⟨bytes⟩ | _ <;> simp

/-- Where one piece of a path leads from a place, which must be a folder. -/
def enter (s : Store) (place : Place) (piece : List Char) : Except FileError Place :=
  match s.get? place with
  | none => .error .notFound
  | some (.file _) => .error .notFolder
  | some .folder =>
    if Path.isIdle piece then .ok place
    else if piece == Path.above then .ok place.dropLast
    else if tooLong piece then .error .nameTooLong
    else .ok (place ++ [piece])

theorem walk_cons (piece : List Char) (rest : List (List Char)) (start : Place) :
    s.walk (piece :: rest) start = s.enter start piece >>= s.walk rest := by
  rw [walk, enter]
  rcases s.get? start with _ | ⟨bytes⟩ | _
  · rfl
  · rfl
  · dsimp only
    split
    · rfl
    · split
      · rfl
      · split <;> rfl

theorem walk_append (ps qs : List (List Char)) (start : Place) :
    s.walk (ps ++ qs) start = s.walk ps start >>= s.walk qs := by
  induction ps generalizing start with
  | nil => rfl
  | cons piece ps ih =>
    rw [List.cons_append, walk_cons, walk_cons, bind_assoc]
    exact congrArg _ (funext ih)

/-- The folder of a path and a name in it make the place that the path leads to. -/
theorem walk_of_holder {ps : List (List Char)} {folder : Place} {name : List Char}
    (h : s.holder start ps = .ok (folder, some name)) : s.walk ps start = .ok (folder ++ [name]) := by
  rw [holder] at h
  rcases hwalk : s.walk ps.dropLast start with e | above
  · simp [hwalk, bind, Except.bind] at h
  · simp only [hwalk, bind, Except.bind] at h
    split at h
    · cases h
    · cases h
    · rename_i hfolder
      split at h
      · cases h
      · rename_i last hlast
        split at h
        · cases h
        · split at h
          · cases h
          · rename_i hname hlong
            obtain ⟨rfl, rfl⟩ : above = folder ∧ last = name := by simpa using h
            obtain ⟨hidle, habove⟩ : ¬ Path.isIdle last ∧ ¬ (last == Path.above) := by simpa using hname
            -- the last piece is a name, so the walk ends with one step down from the folder
            obtain ⟨front, rfl⟩ := List.getLast?_eq_some_iff.1 hlast
            rw [List.dropLast_concat] at hwalk
            rw [walk_append, hwalk]
            show s.walk [last] above = _
            simp only [walk, hfolder, if_neg hidle, if_neg habove, if_neg hlong]

/-! ## Keeping files and folders -/

/-- `t` has the folders of `s` and, outside the places in `written`, the same files. -/
structure Keeps (written : Place → Prop) (s t : Store) : Prop where
  home : t.home = s.home
  folders : ∀ place, s.get? place = some .folder → t.get? place = some .folder
  files : ∀ place, ¬ written place → t.file? place = s.file? place

namespace Keeps

variable {written : Place → Prop}

theorem refl (s : Store) : s.Keeps written s := ⟨rfl, fun _ h => h, fun _ _ => rfl⟩

theorem trans {u : Store} (h : s.Keeps written t) (h' : t.Keeps written u) : s.Keeps written u where
  home := h'.home.trans h.home
  folders place hplace := h'.folders place (h.folders place hplace)
  files place hplace := (h'.files place hplace).trans (h.files place hplace)

theorem mono {written' : Place → Prop} (h : s.Keeps written t) (hw : ∀ place, written place → written' place) :
    s.Keeps written' t :=
  { h with files := fun place hplace => h.files place fun hwritten => hplace (hw place hwritten) }

theorem enter {piece : List Char} (h : s.Keeps written t) (hs : s.enter start piece = .ok place) :
    t.enter start piece = .ok place := by
  rw [Store.enter] at hs
  split at hs
  · cases hs
  · cases hs
  · rename_i hfolder
    rw [Store.enter, h.folders start hfolder]
    exact hs

theorem walk {ps : List (List Char)} (h : s.Keeps written t) (hs : s.walk ps start = .ok place) :
    t.walk ps start = .ok place := by
  induction ps generalizing start with
  | nil => exact hs
  | cons piece ps ih =>
    rw [walk_cons] at hs ⊢
    rcases hnext : s.enter start piece with e | next
    · rw [hnext] at hs
      cases hs
    · rw [hnext] at hs
      rw [h.enter hnext]
      exact ih hs

theorem locate (h : s.Keeps written t) (hs : s.locate path = .ok place) : t.locate path = .ok place := by
  obtain ⟨ps, hps, hwalk⟩ := locate_eq_ok_iff.1 hs
  refine locate_eq_ok_iff.2 ⟨ps, hps, ?_⟩
  rw [start, h.home]
  exact h.walk hwalk

end Keeps

/-! ## Operations -/

/-- What is put where there is no folder replaces at most the file there. -/
theorem put_keeps {x : Stored} (hplace : s.get? place ≠ some .folder) : s.Keeps (· = place) (s.put place x) where
  home := rfl
  folders other h := by
    have hne : other ≠ place := by
      rintro rfl
      exact hplace h
    rw [get?_put_of_ne hne, h]
  files other h := file?_congr (get?_put_of_ne h)

theorem ne_root_of_get? (h : s.get? place ≠ some .folder) : place ≠ [] := by
  rintro rfl
  exact h rfl

theorem put_folder_keeps (hplace : s.get? place = none) : s.Keeps (fun _ => False) (s.put place .folder) := by
  have hfolder : s.get? place ≠ some .folder := by simp [hplace]
  have hput := put_keeps (x := .folder) hfolder
  refine { hput with files := fun other _ => ?_ }
  by_cases hother : other = place
  · rw [hother, file?, file?, get?_put_self (ne_root_of_get? hfolder), hplace]
  · exact hput.files other hother

theorem makeFolder_keeps (h : s.makeFolder path = .ok t) : s.Keeps (fun _ => False) t := by
  rw [makeFolder] at h
  simp only [bind, Except.bind] at h
  split at h
  · cases h
  · split at h
    · cases h
    · split at h
      · cases h
      · rename_i folder name _
        split at h
        · cases h
        · rename_i hempty
          cases h
          exact put_folder_keeps (by simpa using hempty)

/-- The last step of making folders: whatever comes of it, the store is the one before it or has one folder more. -/
theorem settle_keeps (path : List Char) (s : Store) :
    s.Keeps (fun _ => False) (match s.makeFolder path with
      | .ok s => ((.ok (), s) : Except FileError Unit × Store)
      | .error e => (if s.isFolder path then .ok () else .error e, s)).2 := by
  rcases h : s.makeFolder path with e | t
  · exact .refl s
  · exact makeFolder_keeps h

/-- Folders are made above a path, whether all can be made or not, without a change to what is there. -/
theorem makeFolders_keeps (depth : Nat) (path : List Char) (s : Store) :
    s.Keeps (fun _ => False) (makeFolders depth path s).2 := by
  induction depth generalizing path s with
  | zero => exact .refl s
  | succ depth ih =>
    rw [makeFolders]
    split
    · exact .refl s
    · split
      · split
        · exact .refl s
        · rename_i above _
          have habove := ih above s
          split
          · rename_i t hmade
            rw [hmade] at habove
            exact habove.trans (settle_keeps path t)
          · exact habove
      · exact settle_keeps path s

theorem withoutSlashes_eq {ps kept : List (List Char)} (h : withoutSlashes ps = (kept, false)) : kept = ps := by
  obtain ⟨rfl, hlength⟩ := Prod.mk.inj h
  have hsuffix := List.dropWhile_suffix (l := ps.reverse) List.isEmpty
  have hlength : ps.reverse.length ≤ (ps.reverse.dropWhile List.isEmpty).length := by simpa using hlength
  rw [hsuffix.eq_of_length_le hlength, List.reverse_reverse]

/-- A file is written where the path leads, and never over a folder. -/
theorem writable_spec (h : s.writable path = .ok place) :
    s.locate path = .ok place ∧ s.get? place ≠ some .folder := by
  rw [writable] at h
  rcases hps : pieces path with e | ps
  · simp [hps, bind, Except.bind] at h
  · rcases hkept : withoutSlashes ps with ⟨kept, slashes⟩
    rcases hholder : s.holder (s.start path) kept with e | ⟨folder, name⟩
    · simp [hps, hkept, hholder, bind, Except.bind] at h
    · simp only [hps, hkept, hholder, bind, Except.bind] at h
      cases name with
      | none => cases h
      | some name =>
        dsimp only at h
        by_cases hfree : slashes || s.get? (folder ++ [name]) == some .folder
        · rw [if_pos hfree] at h
          cases h
        · rw [if_neg hfree] at h
          cases h
          obtain ⟨hslashes, hfolder⟩ : slashes = false ∧ s.get? (folder ++ [name]) ≠ some .folder := by
            simpa using hfree
          -- without slashes at its end the path is walked as it is
          rw [hslashes] at hkept
          rw [withoutSlashes_eq hkept] at hholder
          exact ⟨locate_eq_ok_iff.2 ⟨ps, hps, walk_of_holder hholder⟩, hfolder⟩

/-- After a file has been written its path leads to its bytes, and no other file has changed. -/
theorem write_spec (h : s.write path bytes = .ok t) :
    ∃ place, t.locate path = .ok place ∧ t.file? place = some bytes ∧ s.Keeps (· = place) t := by
  rw [write] at h
  rcases hplace : s.writable path with e | place
  · simp [hplace, Except.map] at h
  · obtain rfl : s.put place (.file bytes) = t := by simpa [hplace, Except.map] using h
    obtain ⟨hlocate, hfolder⟩ := writable_spec hplace
    have hkeeps := put_keeps (x := .file bytes) hfolder
    exact ⟨place, hkeeps.locate hlocate, file?_eq_some_iff.2 (get?_put_self (ne_root_of_get? hfolder)), hkeeps⟩

/-- The store of a file system changes if the file could be written, and only then. -/
theorem run_access_write (path : String) (bytes : List UInt8) (s : Store) :
    (access.write path bytes).run s =
      match s.write path.toList bytes with
      | .error reason => (.error reason, s)
      | .ok t => (.ok (), t) := by
  simp only [access, StateT.run_bind, StateT.run_get, pure_bind]
  rcases s.write path.toList bytes with reason | t <;> rfl

end ApiValidators.Store
