import PromptPress.Files.Tree

/-!
# Reading what was written

A file that was written is read back (`read_of_write`).  Making folders changes nothing that was
there before (`Extends`), so whatever could be read can still be read.  Writing a file in a folder
leaves the files of other names in that folder alone (`read_child_of_write`).
-/

namespace PromptPress.Tree

variable {t u : Tree} {p q : Path} {b : Bytes} {m : Int}

theorem stat_eq_ok_iff {e : Entry} :
    t.stat p = .ok e ↔ ∃ at', t.placeOf p = .ok at' ∧ t.entryAt? at' = some e := by
  unfold stat
  rcases t.placeOf p with f | at'
  · simp
  · rcases h : t.entryAt? at' with _ | e' <;> simp [h]

theorem read_eq_ok_iff : t.read p = .ok b ↔ ∃ m, t.stat p = .ok (.file b m) := by
  unfold read
  rcases t.stat p with f | e
  · simp
  · cases e <;> simp

/-! ### Putting an entry -/

theorem entryAt?_eq {x : Place} (hx : x ≠ []) (t : Tree) :
    t.entryAt? x = (t.entries.find? fun y => y.1 == x).map (·.2) := by
  unfold entryAt?
  rw [if_neg (by simpa using hx)]

theorem entries_set (t : Tree) (x : Place) (e : Entry) :
    (t.set x e).entries = (t.entries.filter fun y => y.1 != x) ++ [(x, e)] := rfl

theorem entryAt?_set_self {x : Place} (hx : x ≠ []) (e : Entry) :
    (t.set x e).entryAt? x = some e := by
  have hold : (t.entries.filter fun y => y.1 != x).find? (fun y => y.1 == x) = none := by
    rw [List.find?_eq_none]
    intro y hy
    simpa using (List.mem_filter.1 hy).2
  rw [entryAt?_eq hx, entries_set, List.find?_append, hold]
  simp

theorem entryAt?_set_of_ne {x y : Place} (hyx : y ≠ x) (e : Entry) :
    (t.set x e).entryAt? y = t.entryAt? y := by
  by_cases hy : y = []
  · rw [hy]
    rfl
  have hold : (t.entries.filter fun z => z.1 != x).find? (fun z => z.1 == y) =
      t.entries.find? fun z => z.1 == y := by
    rw [List.find?_filter]
    congr 1
    funext z
    by_cases hz : z.1 = y
    · simp [hz, hyx]
    · simp [hz]
  have hnew : (x == y) = false := by simpa using Ne.symm hyx
  rw [entryAt?_eq hy, entryAt?_eq hy, entries_set, List.find?_append, hold]
  simp [hnew]

/-! ### Following a path -/

theorem walk_append (t : Tree) (here : Place) (ps qs : List Text) :
    t.walk here (ps ++ qs) = (t.walk here ps).bind fun x => t.walk x qs := by
  induction ps generalizing here with
  | nil => rw [List.nil_append, walk]; rfl
  | cons part ps ih =>
    rw [List.cons_append, walk, walk]
    rcases t.entryAt? here with _ | _ | _
    · rfl
    · rfl
    · dsimp only
      split
      · split
        · rfl
        · exact ih _
      · exact ih _

theorem walk_cons_of_folder {here : Place} (h : t.entryAt? here = some .folder) (part : Text)
    (ps : List Text) : t.walk here (part :: ps) =
      if part = ['.', '.'] then
        if here.isEmpty then .error .notFound else t.walk here.dropLast ps
      else t.walk (here ++ [part]) ps := by
  rw [walk, h]

/-- Only a folder has a way on. -/
theorem folder_of_walk_cons {here x : Place} {part : Text} {ps : List Text}
    (h : t.walk here (part :: ps) = .ok x) : t.entryAt? here = some .folder := by
  rw [walk] at h
  rcases hhere : t.entryAt? here with _ | _ | _
  · simp [hhere] at h
  · simp [hhere] at h
  · rfl

/-- A way that leads through folders is followed wherever these folders are. -/
theorem walk_of_folders (h : ∀ x, t.entryAt? x = some .folder → u.entryAt? x = some .folder)
    {here x : Place} {ps : List Text} (hw : t.walk here ps = .ok x) : u.walk here ps = .ok x := by
  induction ps generalizing here with
  | nil => exact hw
  | cons part ps ih =>
    have hhere := folder_of_walk_cons hw
    rw [walk_cons_of_folder hhere] at hw
    rw [walk_cons_of_folder (h here hhere)]
    by_cases hup : part = ['.', '.']
    · rw [if_pos hup] at hw ⊢
      by_cases htop : here.isEmpty
      · rw [if_pos htop] at hw
        cases hw
      · rw [if_neg htop] at hw ⊢
        exact ih hw
    · rw [if_neg hup] at hw ⊢
      exact ih hw

theorem placeOf_of_folders (h : ∀ x, t.entryAt? x = some .folder → u.entryAt? x = some .folder)
    {x : Place} (hp : t.placeOf p = .ok x) : u.placeOf p = .ok x := by
  unfold placeOf at hp ⊢
  by_cases hroot : p.root.isEmpty
  · rw [if_pos hroot] at hp ⊢
    exact walk_of_folders h hp
  · rw [if_neg hroot] at hp
    cases hp

/-- The place of a file in a folder ends in its name. -/
theorem placeOf_child {n : Text} (hn : n ≠ ['.', '.']) {x : Place}
    (hp : t.placeOf (p.child n) = .ok x) : ∃ y, t.placeOf p = .ok y ∧ x = y ++ [n] := by
  unfold placeOf at hp ⊢
  by_cases hroot : p.root.isEmpty
  · rw [if_pos (show (p.child n).root.isEmpty from hroot),
      show (p.child n).parts = p.parts ++ [n] from rfl, walk_append] at hp
    rw [if_pos hroot]
    rcases hy : t.walk [] p.parts with f | y
    · rw [hy] at hp
      cases hp
    · rw [hy] at hp
      have hw : t.walk y [n] = .ok x := hp
      rw [walk_cons_of_folder (folder_of_walk_cons hw), if_neg hn, walk] at hw
      exact ⟨y, rfl, (Except.ok.inj hw).symm⟩
  · rw [if_neg (show ¬ (p.child n).root.isEmpty from hroot)] at hp
    cases hp

/-! ### Making folders -/

/-- All entries of `t` are still there in `u`. -/
def Extends (t u : Tree) : Prop := ∀ x e, t.entryAt? x = some e → u.entryAt? x = some e

theorem Extends.refl (t : Tree) : Extends t t := fun _ _ h => h

theorem Extends.trans {v : Tree} (h : Extends t u) (g : Extends u v) : Extends t v :=
  fun x e he => g x e (h x e he)

theorem Extends.read (h : Extends t u) (hr : t.read p = .ok b) : u.read p = .ok b := by
  obtain ⟨m, hs⟩ := read_eq_ok_iff.1 hr
  obtain ⟨x, hp, he⟩ := stat_eq_ok_iff.1 hs
  have hp' : u.placeOf p = .ok x := placeOf_of_folders (fun y => h y .folder) hp
  exact read_eq_ok_iff.2 ⟨m, stat_eq_ok_iff.2 ⟨x, hp', h x _ he⟩⟩

theorem extends_of_makeFolder (h : t.makeFolder p = .ok u) : Extends t u := by
  unfold makeFolder at h
  split at h
  · cases h
  case h_2 x hp =>
    split at h
    · cases h
    case h_2 hnone =>
      split at h
      · obtain rfl := Except.ok.inj h
        intro y e he
        have hyx : y ≠ x := by
          rintro rfl
          simp [hnone] at he
        rwa [entryAt?_set_of_ne hyx]
      · cases h
      · cases h

theorem extends_makeFoldersFrom (done : Path) (ps : List Text) (t : Tree) :
    Extends t (t.makeFoldersFrom done ps).1 := by
  induction ps generalizing t done with
  | nil => exact Extends.refl t
  | cons part ps ih =>
    unfold makeFoldersFrom
    dsimp only
    split
    · exact Extends.refl t
    · split
      case h_1 u hu => exact (extends_of_makeFolder hu).trans (ih _ u)
      case h_2 f hf =>
        split
        · exact ih _ t
        · exact Extends.refl t

theorem extends_makeFolders (t : Tree) (p : Path) : Extends t (t.makeFolders p).1 := by
  unfold makeFolders
  split
  · exact extends_makeFoldersFrom _ _ t
  · exact Extends.refl t

/-! ### Writing a file -/

/-- Writing puts a file where no folder is. -/
theorem exists_set_of_write (h : t.write p b m = .ok u) :
    ∃ x, t.placeOf p = .ok x ∧ t.entryAt? x ≠ some .folder ∧ u = t.set x (.file b m) := by
  unfold write at h
  split at h
  · cases h
  case h_2 x hp =>
    split at h
    · cases h
    case h_2 hx =>
      split at h
      · exact ⟨x, hp, hx, (Except.ok.inj h).symm⟩
      · cases h
      · cases h

theorem folders_of_write (h : t.write p b m = .ok u) (x : Place)
    (hx : t.entryAt? x = some .folder) : u.entryAt? x = some .folder := by
  obtain ⟨y, -, hy, rfl⟩ := exists_set_of_write h
  have hxy : x ≠ y := by
    rintro rfl
    exact hy hx
  rwa [entryAt?_set_of_ne hxy]

/-- **What was written is read.** -/
theorem read_of_write (h : t.write p b m = .ok u) : u.read p = .ok b := by
  have hfolders := folders_of_write h
  obtain ⟨x, hp, hx, rfl⟩ := exists_set_of_write h
  have hne : x ≠ [] := by
    rintro rfl
    exact hx rfl
  exact read_eq_ok_iff.2 ⟨m, stat_eq_ok_iff.2
    ⟨x, placeOf_of_folders hfolders hp, entryAt?_set_self hne _⟩⟩

/-- **Writing a file leaves its neighbours alone.** -/
theorem read_child_of_write {n k : Text} {b' : Bytes} (hn : n ≠ ['.', '.']) (hk : k ≠ ['.', '.'])
    (hnk : n ≠ k) (h : t.write (p.child k) b m = .ok u) (hr : t.read (p.child n) = .ok b') :
    u.read (p.child n) = .ok b' := by
  have hfolders := folders_of_write h
  obtain ⟨x, hx, -, rfl⟩ := exists_set_of_write h
  obtain ⟨m', hs⟩ := read_eq_ok_iff.1 hr
  obtain ⟨y, hy, he⟩ := stat_eq_ok_iff.1 hs
  have hyx : y ≠ x := by
    obtain ⟨z, hz, rfl⟩ := placeOf_child hk hx
    obtain ⟨z', hz', rfl⟩ := placeOf_child hn hy
    obtain rfl : z' = z := by simpa [hz] using hz'.symm
    simpa using hnk
  refine read_eq_ok_iff.2 ⟨m', stat_eq_ok_iff.2 ⟨y, placeOf_of_folders hfolders hy, ?_⟩⟩
  rwa [entryAt?_set_of_ne hyx]

end PromptPress.Tree
