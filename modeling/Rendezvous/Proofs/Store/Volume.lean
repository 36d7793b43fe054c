import Rendezvous.Proofs.Bytes.Basic
import Rendezvous.Proofs.Store.Disk
import Rendezvous.Store.Volume

/-!
# Rendezvous.Proofs.Store.Volume

A store finds its file again. Where a database may lie at a location, opening it makes the
directories above it and the file, and neither that nor a new file in its place moves the
location elsewhere or puts anything in its way.

* `Volume.Houses`: a database may lie at a location, in a given file;
* `Volume.Houses.makeDirs`, `Volume.Houses.write`: that stays so;
* `Volume.Houses.openDatabase`, `Volume.openStore_of_empty`, `Volume.Houses.openStore`:
  opening, for the first time and again;
* `Volume.readText_write`: a text that is written.
-/

namespace Rendezvous.Volume

variable {v v' : Volume} {location : String} {p : Path}

/-! ### Directories -/

theorem mem_foldl_directories (ps ds : List Path) (q : Path) :
    q ∈ ps.foldl (fun ds q => if ds.contains q then ds else ds ++ [q]) ds ↔
      q ∈ ds ∨ q ∈ ps := by
  induction ps generalizing ds with
  | nil => simp
  | cons p ps ih =>
      rw [List.foldl_cons, ih, List.mem_cons]
      by_cases hp : ds.contains p
      · have hmem : p ∈ ds := List.contains_iff_mem.1 hp
        rw [if_pos hp]
        constructor
        · rintro (h | h)
          · exact Or.inl h
          · exact Or.inr (Or.inr h)
        · rintro (h | rfl | h)
          · exact Or.inl h
          · exact Or.inl hmem
          · exact Or.inr h
      · rw [if_neg hp, List.mem_append, List.mem_singleton, or_assoc]

theorem makeDirs_files (h : v.makeDirs p = some v') : v'.files = v.files := by
  unfold makeDirs at h
  split at h
  · cases h
  · cases h
    rfl

theorem mem_makeDirs_directories (h : v.makeDirs p = some v') (q : Path) :
    q ∈ v'.directories ↔ q ∈ v.directories ∨ q ∈ parents p := by
  unfold makeDirs at h
  split at h
  · cases h
  · cases h
    exact mem_foldl_directories (parents p) v.directories q

/-- A directory that is made, and those above it, are all that is new. -/
theorem isDirectory_makeDirs (h : v.makeDirs p = some v') (q : Path) :
    v'.isDirectory q = true ↔ v.isDirectory q = true ∨ q ∈ parents p := by
  simp only [isDirectory, Bool.or_eq_true, List.contains_iff_mem,
    mem_makeDirs_directories h q, or_assoc]

/-- What lies above a path is shorter. -/
theorem length_of_mem_parents {q : Path} (h : q ∈ parents p) : q.length ≤ p.length := by
  obtain ⟨i, -, rfl⟩ := List.mem_map.1 h
  rw [List.length_take]
  exact Nat.min_le_right _ _

/-! ### A place for a database -/

/-- A database may lie at a location, in a file at a path. -/
structure Houses (v : Volume) (location : String) (p : Path) : Prop where
  fileOf : v.fileOf location = p
  named : location ≠ ""
  notDirectory : v.isDirectory p = false
  /-- A location that ends like a directory is one. -/
  slash : location.toList.getLast? = some '/' → v.isDirectory (path location) = true
  /-- No file is in the way. -/
  clear : ∀ q ∈ parents p.dropLast, v.files.get? q = none

theorem Houses.ne_nil (h : v.Houses location p) : p ≠ [] := by
  intro hp
  have hdir := h.notDirectory
  rw [hp] at hdir
  cases hdir

/-- The file lies below the directories above it. -/
theorem Houses.not_mem_parents (h : v.Houses location p) : p ∉ parents p.dropLast := by
  intro hmem
  have hle := length_of_mem_parents hmem
  have hpos : 0 < p.length := List.length_pos_iff.2 h.ne_nil
  rw [List.length_dropLast] at hle
  omega

theorem Houses.makeDirs (h : v.Houses location p)
    (hmake : v.makeDirs p.dropLast = some v') : v'.Houses location p where
  fileOf := by
    have hp := h.fileOf
    have hnot := h.not_mem_parents
    unfold Volume.fileOf at hp ⊢
    by_cases hdir : v.isDirectory (path location) = true
    · have hdir' : v'.isDirectory (path location) = true :=
        (isDirectory_makeDirs hmake _).2 (Or.inl hdir)
      rw [if_pos ⟨hdir, h.named⟩] at hp
      rw [if_pos ⟨hdir', h.named⟩, hp]
    · -- No directory comes to be at the file's own path, which would move the location.
      have hpath : path location = p := by rwa [if_neg fun hc => hdir hc.1] at hp
      have hdir' : ¬ v'.isDirectory (path location) = true := by
        rw [isDirectory_makeDirs hmake, hpath]
        rintro (hd | hd)
        · exact hdir (hpath ▸ hd)
        · exact hnot hd
      rw [if_neg fun hc => hdir' hc.1, hpath]
  named := h.named
  notDirectory := by
    refine Bool.eq_false_iff.2 fun hdir => ?_
    rcases (isDirectory_makeDirs hmake p).1 hdir with hd | hd
    · rw [h.notDirectory] at hd
      cases hd
    · exact h.not_mem_parents hd
  slash hs := (isDirectory_makeDirs hmake _).2 (Or.inl (h.slash hs))
  clear := by
    rw [makeDirs_files hmake]
    exact h.clear

theorem Houses.write (h : v.Houses location p) (f : StoredFile) :
    (v.write p f).Houses location p where
  fileOf := h.fileOf
  named := h.named
  notDirectory := h.notDirectory
  slash := h.slash
  -- The file that is written lies below the directories in question.
  clear q hq := by
    show (v.files.insert p f).get? q = none
    have hne : q ≠ p := by
      rintro rfl
      exact h.not_mem_parents hq
    rw [Table.get?_insert, if_neg hne]
    exact h.clear q hq

/-- What is written is there. -/
theorem get?_write_self (v : Volume) (p : Path) (f : StoredFile) :
    (v.write p f).files.get? p = some f := by
  rw [Volume.write, Table.get?_insert, if_pos rfl]

/-- The directories above a file that has a place can be made. -/
theorem Houses.makeDirs_eq (h : v.Houses location p) :
    ∃ v', v.makeDirs p.dropLast = some v' := by
  have hclear : ¬ ((parents p.dropLast).any fun q => (v.files.get? q).isSome) = true := by
    intro hany
    obtain ⟨q, hq, hsome⟩ := List.any_eq_true.1 hany
    rw [h.clear q hq] at hsome
    cases hsome
  exact ⟨_, if_neg hclear⟩

/-! ### Opening -/

/-- What opens has a place. -/
theorem houses_of_openDatabase {rows : Rows} (h : v.openDatabase location = .ok (v', rows)) :
    v.Houses location (v.fileOf location) := by
  unfold openDatabase at h
  dsimp only at h
  split at h
  · cases h
  · rename_i hbad
    simp only [not_or, not_and, Bool.not_eq_true', Bool.not_eq_false] at hbad
    obtain ⟨hnamed, hdir, hslash⟩ := hbad
    split at h
    · cases h
    · rename_i w hmake
      refine ⟨rfl, fun he => hnamed (by rw [he]; rfl), Bool.eq_false_iff.2 hdir, hslash, ?_⟩
      intro q hq
      unfold makeDirs at hmake
      split at hmake
      · cases hmake
      · rename_i hclear
        cases hget : v.files.get? q with
        | none => rfl
        | some f => exact absurd (List.any_eq_true.2 ⟨q, hq, by rw [hget]; rfl⟩) hclear

/-- A database that is there is opened. -/
theorem Houses.openDatabase (h : v.Houses location p) {rows : Rows}
    (hget : v.files.get? p = some (.database rows)) :
    ∃ v', v.makeDirs p.dropLast = some v' ∧ v.openDatabase location = .ok (v', rows) := by
  obtain ⟨v', hmake⟩ := h.makeDirs_eq
  refine ⟨v', hmake, ?_⟩
  have hgood : ¬ (location.isEmpty = true ∨ v.isDirectory p = true
      ∨ (location.toList.getLast? = some '/' ∧ (!v.isDirectory (path location)) = true)) := by
    rintro (hempty | hdir | ⟨hs, hdir⟩)
    · exact h.named (String.isEmpty_iff.1 hempty)
    · rw [h.notDirectory] at hdir
      cases hdir
    · rw [h.slash hs] at hdir
      cases hdir
  unfold Volume.openDatabase
  dsimp only
  rw [h.fileOf, if_neg hgood, hmake]
  dsimp only
  rw [makeDirs_files hmake, hget]

/-- The rows of a database that is opened are those of its file, if there is one, and the file
keeps its place. -/
theorem Houses.of_openDatabase (h : v.Houses location p) {rows : Rows}
    (hopen : v.openDatabase location = .ok (v', rows)) :
    v'.Houses location p ∧ rows = (v.database? p).getD [] := by
  obtain ⟨w, hmake⟩ := h.makeDirs_eq
  have hw := h.makeDirs hmake
  unfold Volume.openDatabase at hopen
  dsimp only at hopen
  rw [h.fileOf, hmake] at hopen
  split at hopen
  · cases hopen
  · dsimp only at hopen
    rw [makeDirs_files hmake] at hopen
    unfold database?
    cases hget : v.files.get? p with
    | none =>
        rw [hget] at hopen
        cases hopen
        exact ⟨hw.write _, rfl⟩
    | some f =>
        rw [hget] at hopen
        cases f with
        | database rows' =>
            cases hopen
            exact ⟨hw, rfl⟩
        | data bytes =>
            cases bytes with
            | nil =>
                cases hopen
                exact ⟨hw.write _, rfl⟩
            | cons b bs => cases hopen

/-- What is opened on a database without rows. -/
theorem openStore_of_openDatabase (hloc : location ≠ Store.inMemory)
    (h : v.openDatabase location = .ok (v', [])) (maxTtl : Duration) (now : Instant) :
    v.openStore location maxTtl now =
      (v'.write (v'.fileOf location) (.database []),
        .ok (Store.ofRecords maxTtl location [])) := by
  have hrecords : Rows.records [] = .ok [] := by
    rw [Rows.records, Rows.sorted, List.mergeSort_nil, Rows.decode]
  have hrows : Store.ofRows maxTtl location now [] =
      .ok (Store.ofRecords maxTtl location [], []) := by
    rw [Store.ofRows, hrecords]
    rfl
  unfold openStore
  rw [if_neg hloc, h]
  dsimp only
  rw [hrows]

/-- What is opened on an empty file, or where there is none. -/
theorem openStore_of_empty {maxTtl : Duration} {now : Instant} {s : Store}
    (hloc : location ≠ Store.inMemory)
    (hempty : (v.database? (v.fileOf location)).getD [] = [])
    (hopen : v.openStore location maxTtl now = (v', .ok s)) :
    s = Store.ofRecords maxTtl location [] ∧ v'.Houses location (v.fileOf location) ∧
      v'.files.get? (v.fileOf location) = some (.database []) := by
  cases hdb : v.openDatabase location with
  | error e =>
      unfold openStore at hopen
      rw [if_neg hloc, hdb] at hopen
      cases hopen
  | ok opened =>
      obtain ⟨w, rows⟩ := opened
      obtain ⟨hw, rfl⟩ := (houses_of_openDatabase hdb).of_openDatabase hdb
      rw [hempty] at hdb
      rw [openStore_of_openDatabase hloc hdb] at hopen
      cases hopen
      rw [hw.fileOf]
      exact ⟨rfl, hw.write _, w.get?_write_self _ _⟩

/-- What is left of a store that is closed. -/
theorem closeStore_snd (v : Volume) (s : Store) : (v.closeStore s).2 = s.close := by
  unfold closeStore
  split
  · rename_i h
    cases s
    cases h
    rfl
  · split <;> rfl

/-- A store that is closed leaves its file with what its queue has made of the rows. -/
theorem Houses.closeStore {s : Store} (h : v.Houses s.location p) (hclosed : s.closed = false)
    (hqueued : s.queue.isSome = true) {rows : Rows}
    (hget : v.files.get? p = some (.database rows)) :
    v.closeStore s = (v.write p (.database (s.flush rows)), s.close) := by
  obtain ⟨ops, hops⟩ := Option.isSome_iff_exists.1 hqueued
  unfold Volume.closeStore database?
  rw [if_neg (by simp [hclosed]), hops]
  dsimp only
  rw [h.fileOf, hget]
  rfl

/-- A store is opened on the rows that its file has. -/
theorem Houses.openStore (h : v.Houses location p) (hloc : location ≠ Store.inMemory)
    {rows rest : Rows} (hget : v.files.get? p = some (.database rows)) {maxTtl : Duration}
    {now : Instant} {s : Store}
    (hrows : Store.ofRows maxTtl location now rows = .ok (s, rest)) :
    ∃ v', v.openStore location maxTtl now = (v', .ok s) := by
  obtain ⟨v', -, hopen⟩ := h.openDatabase hget
  unfold Volume.openStore
  rw [if_neg hloc, hopen]
  dsimp only
  rw [hrows]
  exact ⟨_, rfl⟩

/-! ### Texts -/

/-- A text that is written where a file may lie is read there. -/
theorem readText_write (hdir : v.isDirectory (path location) = false)
    (hslash : location.toList.getLast? ≠ some '/') (text : String) :
    (v.write (path location) (.data (Bytes.ofString text))).readText location = .ok text := by
  have hget : (v.write (path location) (.data (Bytes.ofString text))).files.get? (path location)
      = some (.data (Bytes.ofString text)) := v.get?_write_self _ _
  have hnot : ¬ (v.write (path location) (.data (Bytes.ofString text))).isDirectory
      (path location) = true := Bool.eq_false_iff.1 hdir
  unfold readText
  dsimp only
  rw [if_neg hnot, hget]
  dsimp only
  rw [if_neg hslash, Bytes.toString?_ofString]

end Rendezvous.Volume
