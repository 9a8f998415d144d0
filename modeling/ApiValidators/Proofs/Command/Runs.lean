import ApiValidators.Command.Run
import ApiValidators.Proofs.Files.Store
import ApiValidators.Proofs.Module.Sections

/-!
# Runs on a store

A run loads and compiles, which only reads (`run_generate_of_error`), and then writes one file (`run_generate_of_ok`).
Loading and compiling go through for the documents that a check accepts (`compile_ok_iff_report`), and writing changes
no file but the one that it is asked to write (`run_write_spec`). From these comes what a run as a whole does
(`generate_all_or_nothing`).
-/

namespace ApiValidators

/-- Whether loading or compiling went wrong, so that nothing was to be written yet. -/
def Failure.isEarly : Failure → Bool
  | notLoaded .. | notCompiled .. => true
  | _ => false

namespace Command

variable {s : Settings} {store : Store}

/-! ## Loading and compiling -/

theorem compile_error_isEarly {read : Except FileError (List UInt8)} {f : Failure}
    (h : (compile s read).1 = .error f) : f.isEarly := by
  rw [compile] at h
  rcases hd : Document.ofFile s.input read with reason | d
  · obtain rfl : Failure.notLoaded s.input reason = f := by simpa [hd] using h
    rfl
  · rcases hstatements : d.generate s.options with ⟨reason | statements, warnings⟩
    · obtain rfl : Failure.notCompiled s.input reason = f := by simpa [hd, hstatements] using h
      rfl
    · simp [hd, hstatements] at h

theorem compile_eq_ok_iff {read : Except FileError (List UInt8)} {text : List Char} {n : Nat} :
    (compile s read).1 = .ok (text, n) ↔ ∃ d statements, Document.ofFile s.input read = .ok d ∧
      (d.generate s.options).1 = .ok statements ∧ text = Module.text s.banners statements ∧ n = statements.length := by
  rw [compile]
  rcases Document.ofFile s.input read with reason | d
  · simp
  · dsimp only
    rcases h : d.generate s.options with ⟨reason | statements, warnings⟩
    · simp [h]
    · simp [h, eq_comm]

theorem report_ok_iff {input : String} {read : Except FileError (List UInt8)} :
    (∃ r, (report input read).1 = .ok r) ↔
      ∃ d flat, Document.ofFile input read = .ok d ∧ d.resolve.1 = .ok flat := by
  rw [report]
  rcases Document.ofFile input read with reason | d
  · simp
  · dsimp only
    rcases h : d.resolve with ⟨reason | flat, warnings⟩ <;> simp [h]

/-- A document compiles, whatever the options, if and only if it can be checked. -/
theorem compile_ok_iff_report {read : Except FileError (List UInt8)} :
    (∃ compiled, (compile s read).1 = .ok compiled) ↔ ∃ r, (report s.input read).1 = .ok r := by
  rw [report_ok_iff]
  constructor
  · rintro ⟨⟨text, n⟩, h⟩
    obtain ⟨d, statements, hd, hstatements, -, -⟩ := compile_eq_ok_iff.1 h
    obtain ⟨flat, hflat, -⟩ := Document.generate_ok_iff.1 hstatements
    exact ⟨d, flat, hd, hflat⟩
  · rintro ⟨d, flat, hd, hflat⟩
    have hstatements : (d.generate s.options).1 = .ok (flat.assemble s.options).1 :=
      Document.generate_ok_iff.2 ⟨flat, hflat, rfl⟩
    exact ⟨_, compile_eq_ok_iff.2 ⟨d, _, hd, hstatements, rfl, rfl⟩⟩

/-! ## On a store -/

theorem run_check (input : String) (store : Store) :
    (check Store.access input).run store = (report input (store.read input.toList), store) := rfl

/-- A file is written after some folders have been made above it, unless that went wrong. -/
theorem run_write (path : String) (bytes : List UInt8) (store : Store) :
    ∃ folder, ∃ made : Except FileError Unit, ∃ kept, store.Keeps (fun _ => False) kept ∧
      (write Store.access path bytes).run store =
        match made with
        | .error reason => (.error (.folderNotMade folder reason), kept)
        | .ok () =>
          match kept.write path.toList bytes with
          | .error reason => (.error (.notWritten path reason), kept)
          | .ok written => (.ok (), written) := by
  let folder := String.ofList ((Path.parent? path.toList).getD [])
  by_cases hfolder : folder.isEmpty
  · refine ⟨folder, .ok (), store, .refl store, ?_⟩
    rw [write, if_pos hfolder, pure_bind]
    simp only [StateT.run_bind, Store.run_access_write]
    rcases store.write path.toList bytes with reason | written <;> rfl
  · have hkept := Store.makeFolders_keeps (folder.length + 1) folder.toList store
    have hfolders : (Store.access.makeFolders folder).run store =
        Store.makeFolders (folder.length + 1) folder.toList store := rfl
    rcases hmade : Store.makeFolders (folder.length + 1) folder.toList store with ⟨made, kept⟩
    rw [hmade] at hkept hfolders
    refine ⟨folder, made, kept, hkept, ?_⟩
    rw [write, if_neg hfolder, StateT.run_bind, hfolders]
    rcases made with reason | ⟨⟩
    · rfl
    · show ((Store.access.write path bytes >>= _ : StateM Store _).run kept) = _
      rw [StateT.run_bind, Store.run_access_write]
      rcases kept.write path.toList bytes with reason | written <;> rfl

/-- Writing keeps every file but the one that the path leads to, and all of them if it fails. -/
theorem run_write_spec (path : String) (bytes : List UInt8) (store : Store) :
    (∃ f kept, (write Store.access path bytes).run store = (.error f, kept) ∧ ¬ f.isEarly ∧
      store.Keeps (fun _ => False) kept) ∨
    ∃ written place, (write Store.access path bytes).run store = (.ok (), written) ∧
      written.locate path.toList = .ok place ∧ written.file? place = some bytes ∧
      store.Keeps (· = place) written := by
  obtain ⟨folder, made, kept, hkept, hrun⟩ := run_write path bytes store
  rw [hrun]
  rcases made with reason | ⟨⟩
  · exact .inl ⟨_, kept, rfl, by simp [Failure.isEarly], hkept⟩
  · rcases hwritten : kept.write path.toList bytes with reason | written
    · exact .inl ⟨.notWritten path reason, kept, rfl, by simp [Failure.isEarly], hkept⟩
    · obtain ⟨place, hlocate, hfile, hkeeps⟩ := Store.write_spec hwritten
      exact .inr ⟨written, place, rfl, hlocate, hfile, (hkept.mono fun _ => False.elim).trans hkeeps⟩

theorem run_generate_of_error {f : Failure} {warnings : List Warning}
    (h : compile s (store.read s.input.toList) = (.error f, warnings)) :
    (generate Store.access s).run store = ((.error f, warnings), store) := by
  have hread : (Store.access.read s.input).run store = pure (store.read s.input.toList, store) := rfl
  rw [generate, StateT.run_bind, hread, pure_bind, h]
  rfl

/-- A run that compiles is a write of what was compiled. -/
theorem run_generate_of_ok {text : List Char} {statements : Nat} {warnings : List Warning}
    {done : Except Failure Unit} {after : Store}
    (h : compile s (store.read s.input.toList) = (.ok (text, statements), warnings))
    (hwrite : (write Store.access s.output (Text.toUtf8 text)).run store = (done, after)) :
    (generate Store.access s).run store =
      ((done.map fun _ =>
        { output := s.output, statements, bytes := (Text.toUtf8 text).length }, warnings), after) := by
  have hread : (Store.access.read s.input).run store = pure (store.read s.input.toList, store) := rfl
  rw [generate, StateT.run_bind, hread, pure_bind, h]
  dsimp only
  rw [StateT.run_bind, hwrite]
  rcases done with f | ⟨⟩ <;> rfl

/-! ## Whole runs -/

/-- **A run does all of its work or none, and a check tells which.** If loading or compiling fails, the store is as
before. They fail for the documents that a check refuses, whatever the options. A run that fails changes no file. A run
that succeeds has written, where the output leads, the text of the module that its input had before the run, and has
changed no other file. -/
theorem generate_all_or_nothing (s : Settings) (store : Store) :
    let outcome := ((generate Store.access s).run store).1.1
    let after := ((generate Store.access s).run store).2
    (∀ f, outcome = .error f → f.isEarly → after = store) ∧
    ((∀ f, outcome = .error f → ¬ f.isEarly) ↔
      ∃ report, ((check Store.access s.input).run store).1.1 = .ok report) ∧
    (∀ f, outcome = .error f → ∀ place, after.file? place = store.file? place) ∧
    ∀ summary, outcome = .ok summary →
      ∃ d statements, Document.ofFile s.input (store.read s.input.toList) = .ok d ∧
        (d.generate s.options).1 = .ok statements ∧
        let bytes := Text.toUtf8 (Module.text s.banners statements)
        summary = { output := s.output, statements := statements.length, bytes := bytes.length } ∧
        after.read s.output.toList = .ok bytes ∧
        ∀ place, after.locate s.output.toList ≠ .ok place → after.file? place = store.file? place := by
  have hcheck : (∃ report, ((check Store.access s.input).run store).1.1 = .ok report) ↔
      ∃ compiled, (compile s (store.read s.input.toList)).1 = .ok compiled := by
    rw [run_check]
    exact compile_ok_iff_report.symm
  rw [hcheck]
  rcases hcompile : compile s (store.read s.input.toList) with ⟨f | ⟨text, n⟩, warnings⟩
  · -- nothing has been written yet
    have hearly : f.isEarly := compile_error_isEarly (by rw [hcompile])
    rw [run_generate_of_error hcompile]
    exact ⟨fun _ _ _ => rfl, by simp [hearly], fun _ _ _ => rfl, nofun⟩
  · obtain ⟨d, statements, hd, hstatements, rfl, rfl⟩ := compile_eq_ok_iff.1 (congrArg Prod.fst hcompile)
    rcases run_write_spec s.output (Text.toUtf8 (Module.text s.banners statements)) store with
      ⟨f, kept, hwrite, hlate, hkeeps⟩ | ⟨written, place, hwrite, hlocate, hfile, hkeeps⟩
    · -- folders may have been made, but no file
      rw [run_generate_of_ok hcompile hwrite]
      refine ⟨?_, ?_, fun _ _ place => hkeeps.files place not_false, nofun⟩
      · rintro _ ⟨⟩ hearly
        exact absurd hearly hlate
      · simpa [Except.map] using hlate
    · rw [run_generate_of_ok hcompile hwrite]
      refine ⟨nofun, by simp [Except.map], nofun, ?_⟩
      rintro _ ⟨⟩
      refine ⟨d, statements, hd, hstatements, rfl, Store.read_eq_ok_iff.2 ⟨place, hlocate, hfile⟩, ?_⟩
      intro other hother
      refine hkeeps.files other ?_
      rintro rfl
      exact hother hlocate

/-- A folder with a document in it, and nothing else. -/
def yard : Store where
  stored := [(["api.json".toList], .file (Text.toUtf8
    "\x7b\"openapi\":\"3.0.3\",\"components\":\x7b\"schemas\":\x7b\"Pet\":\x7b\"type\":\"string\"\x7d\x7d\x7d\x7d".toList))]

def yardSettings (output : String) : Settings where
  input := "api.json"
  output
  options := {}
  banners := false

/-- A run that is to write to `out/pets.ts` makes that folder and the file. One that is to write to `out/..` makes the
folder too and then fails, but every file is as before, and a check finds nothing wrong with the document. -/
theorem generate_all_or_nothing_yard :
    (((generate Store.access (yardSettings "out/pets.ts")).run yard).1.1 =
        .ok { output := "out/pets.ts", statements := 1, bytes := 63 } ∧
      (∃ bytes, bytes.length = 63 ∧
        ((generate Store.access (yardSettings "out/pets.ts")).run yard).2.read "out/pets.ts".toList = .ok bytes) ∧
      ((generate Store.access (yardSettings "out/pets.ts")).run yard).2.file? ["api.json".toList] =
        yard.file? ["api.json".toList]) ∧
    ((generate Store.access (yardSettings "out/..")).run yard).1.1 = .error (.notWritten "out/.." .isFolder) ∧
      ((generate Store.access (yardSettings "out/..")).run yard).2.isFolder "out".toList ∧
      (∀ place, ((generate Store.access (yardSettings "out/..")).run yard).2.file? place = yard.file? place) ∧
      ∃ report, ((check Store.access "api.json").run yard).1.1 = .ok report := by
  constructor
  · have hok : ((generate Store.access (yardSettings "out/pets.ts")).run yard).1.1 =
        .ok { output := "out/pets.ts", statements := 1, bytes := 63 } := by decide +kernel
    have hplace : ((generate Store.access (yardSettings "out/pets.ts")).run yard).2.locate "out/pets.ts".toList =
        .ok ["out".toList, "pets.ts".toList] := by decide +kernel
    obtain ⟨-, -, -, hwritten⟩ := generate_all_or_nothing (yardSettings "out/pets.ts") yard
    obtain ⟨d, statements, -, -, hsummary, hread, hothers⟩ := hwritten _ hok
    obtain ⟨-, -, hbytes⟩ := (Summary.mk.injEq ..).mp hsummary
    refine ⟨hok, ⟨_, hbytes.symm, hread⟩, hothers _ fun h => ?_⟩
    exact absurd (hplace.symm.trans h) (by decide)
  · have herror : ((generate Store.access (yardSettings "out/..")).run yard).1.1 =
        .error (.notWritten "out/.." .isFolder) := by decide +kernel
    have hmade : ((generate Store.access (yardSettings "out/..")).run yard).2.isFolder "out".toList := by
      decide +kernel
    obtain ⟨-, hcheck, hfailed, -⟩ := generate_all_or_nothing (yardSettings "out/..") yard
    refine ⟨herror, hmade, hfailed _ herror, hcheck.1 fun f hf => ?_⟩
    obtain rfl : Failure.notWritten "out/.." .isFolder = f := Except.error.inj (herror.symm.trans hf)
    decide

end Command

end ApiValidators
