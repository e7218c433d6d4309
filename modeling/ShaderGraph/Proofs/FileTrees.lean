import ShaderGraph.FileTree
import ShaderGraph.Proofs.FilePaths
import ShaderGraph.Proofs.Outcome

/-!
# Places in a file tree

Where a path leads depends only on which places are directories. A write puts one file at the place
that its path leads to and leaves all else alone, and making directories only adds some. So a path
that led to a file still leads to it, and to the same content unless the write was to that place.
-/
namespace ShaderGraph.FileTree

variable {t t' : FileTree} {l l' : Location} {path : Text}

/-! ## Single places -/

theorem lookup_filter_ne (entries : List (Location × Entry)) (hl : l' ≠ l) :
    (entries.filter (·.1 ≠ l)).lookup l' = entries.lookup l' := by
  induction entries with
  | nil => rfl
  | cons x entries ih =>
    obtain ⟨k, e⟩ := x
    by_cases hk : k = l
    · have hne : (l' == k) = false := by simpa [hk] using hl
      rw [List.filter_cons_of_neg (by simpa using hk), ih, List.lookup_cons, hne]
    · rw [List.filter_cons_of_pos (by simpa using hk), List.lookup_cons, List.lookup_cons, ih]

theorem entry?_put (hl : t.entry? l ≠ some .directory) (e : Entry) (l' : Location) :
    entry? (t.put l e) l' = if l' = l then some e else t.entry? l' := by
  unfold entry? at hl ⊢
  by_cases hfixed : l' = [[]] ∨ l'.all (· = Location.up) = true
  · -- A place that is there always is no place to put something at.
    have hne : l' ≠ l := by
      rintro rfl
      exact hl (if_pos hfixed)
    rw [if_pos hfixed, if_neg hne, if_pos hfixed]
  · rw [if_neg hfixed, if_neg hfixed, put, List.lookup_cons]
    by_cases hne : l' = l
    · simp [hne]
    · rw [if_neg hne, beq_eq_false_iff_ne.mpr hne, lookup_filter_ne t.entries hne]

/-! ## Ways -/

def Opens (t t' : FileTree) : Prop :=
  ∀ l, t.entry? l = some .directory → t'.entry? l = some .directory

theorem Opens.descend (h : t.Opens t') {elem : Text} (hd : t.descend l elem = .ok l') :
    t'.descend l elem = .ok l' := by
  unfold FileTree.descend at hd ⊢
  split at hd
  · cases hd
  · cases hd
  · rename_i hl
    rw [h l hl]
    exact hd

theorem Opens.foldlM (h : t.Opens t') {elems : List Text} (hd : elems.foldlM t.descend l = .ok l') :
    elems.foldlM t'.descend l = .ok l' := by
  induction elems generalizing l with
  | nil => exact hd
  | cons elem elems ih =>
    rw [List.foldlM_cons] at hd ⊢
    obtain ⟨mid, hmid, hd⟩ := Outcome.bind_eq_ok.mp hd
    exact Outcome.bind_eq_ok.mpr ⟨mid, h.descend hmid, ih hd⟩

def Proper (path : Text) : Prop :=
  path.contains 0 = false ∧ path ≠ [] ∧ path.length ≤ pathLimit

theorem locate_eq_ok : t.locate path = .ok l ↔ Proper path ∧
    (path.splitOn 0x2f).foldlM t.descend (if Path.isAbsolute path then [[]] else []) = .ok l := by
  unfold locate Proper
  split
  · simp_all
  · split
    · simp_all
    · split
      · rename_i hlong
        simp [Nat.not_le.mpr hlong]
      · rename_i hzero hempty hlong
        simp_all

theorem Opens.locate (h : t.Opens t') (hl : t.locate path = .ok l) : t'.locate path = .ok l := by
  rw [locate_eq_ok] at hl ⊢
  exact ⟨hl.1, h.foldlM hl.2⟩

theorem descend_element {name : Text} (hname : Path.IsElement name)
    (h : t.descend l name = .ok l') : l' = l ++ [name] := by
  have hempty : name.isEmpty = false := by simpa using hname.nonempty
  have hhere : (name == Text.ofString ".") = false := by simpa using hname.ne_here
  have hup : (name == Location.up) = false := by simpa [Location.up] using hname.ne_up
  unfold descend at h
  split at h
  · cases h
  · cases h
  · simp only [hempty, hhere, hup, Bool.or_self, Bool.false_eq_true, if_false] at h
    split at h
    · cases h
    · exact (Except.ok.inj h).symm

theorem locate_join {dir name : Text} (hdir : dir ≠ []) (hname : Path.IsElement name)
    (h : t.locate (Path.join dir name) = .ok l) : l.getLast? = some name := by
  have hway := (locate_eq_ok.mp h).2
  rw [Path.splitOn_join_path hdir hname, List.foldlM_append] at hway
  obtain ⟨parent, _, hway⟩ := Outcome.bind_eq_ok.mp hway
  rw [List.foldlM_cons] at hway
  obtain ⟨last, hlast, hway⟩ := Outcome.bind_eq_ok.mp hway
  obtain rfl := Outcome.pure_eq_ok.mp hway
  rw [descend_element hname hlast, List.getLast?_concat]

theorem find_eq_ok {e : Entry} :
    t.find path = .ok e ↔ ∃ l, t.locate path = .ok l ∧ t.entry? l = some e := by
  rw [find, Outcome.bind_eq_ok]
  refine exists_congr fun l => and_congr_right fun _ => ?_
  cases t.entry? l with
  | none => simp [throw, throwThe, MonadExceptOf.throw]
  | some e' => rw [Outcome.pure_eq_ok, Option.some.injEq]

theorem openFile_eq_ok {e : Entry} :
    t.openFile path = .ok e ↔ ∃ l, t.locate path = .ok l ∧ t.entry? l = some e := by
  rw [← find_eq_ok, openFile]
  cases t.find path <;> simp [Except.mapError]

/-! ## Writes -/

theorem target_eq_ok (hpath : path.getLast? ≠ some 0x2f) :
    t.target path = .ok l ↔ t.locate path = .ok l ∧ t.entry? l ≠ some .directory := by
  have hslash : (path.getLast? == some 0x2f) = false := by simpa using hpath
  rw [target, hslash, if_neg (by simp), Outcome.bind_eq_ok]
  constructor
  · rintro ⟨place, hplace, h⟩
    cases he : t.entry? place with
    | none =>
      rw [he] at h
      obtain rfl := Outcome.pure_eq_ok.mp h
      exact ⟨hplace, by simp [he]⟩
    | some e =>
      rw [he] at h
      cases e with
      | directory => cases h
      | file c =>
        obtain rfl := Outcome.pure_eq_ok.mp h
        exact ⟨hplace, by simp [he]⟩
  · rintro ⟨hplace, hne⟩
    refine ⟨l, hplace, ?_⟩
    cases he : t.entry? l with
    | none => rfl
    | some e =>
      cases e with
      | directory => exact absurd he hne
      | file c => rfl

theorem write_eq_ok (hpath : path.getLast? ≠ some 0x2f) {c : Content} :
    t.write path c = .ok t' ↔ ∃ l, t.locate path = .ok l ∧ t.entry? l ≠ some .directory ∧
      t.put l (.file c) = t' := by
  rw [write]
  constructor
  · intro h
    split at h
    · rename_i l hl
      obtain ⟨hlocate, hne⟩ := (target_eq_ok hpath).mp hl
      exact ⟨l, hlocate, hne, Except.ok.inj h⟩
    · cases h
  · rintro ⟨l, hlocate, hne, rfl⟩
    rw [(target_eq_ok hpath).mpr ⟨hlocate, hne⟩]

def SameWays (t t' : FileTree) : Prop := t.Opens t' ∧ t'.Opens t

theorem SameWays.refl (t : FileTree) : t.SameWays t := ⟨fun _ => id, fun _ => id⟩

theorem SameWays.trans {t'' : FileTree} (h : t.SameWays t') (h' : t'.SameWays t'') :
    t.SameWays t'' :=
  ⟨fun l hl => h'.1 l (h.1 l hl), fun l hl => h.2 l (h'.2 l hl)⟩

theorem SameWays.locate (h : t.SameWays t') : t.locate path = .ok l ↔ t'.locate path = .ok l :=
  ⟨h.1.locate, h.2.locate⟩

/-- A write opens and closes no way, and all places but one are as before. -/
theorem write_spec (hpath : path.getLast? ≠ some 0x2f) {c : Content}
    (h : t.write path c = .ok t') : t.SameWays t' ∧ ∃ l, t.locate path = .ok l ∧
      ∀ k, t'.entry? k = if k = l then some (.file c) else t.entry? k := by
  obtain ⟨l, hl, hne, rfl⟩ := (write_eq_ok hpath).mp h
  have hentry := entry?_put hne (.file c)
  refine ⟨⟨fun k hk => ?_, fun k hk => ?_⟩, l, hl, hentry⟩
  · have hkl : k ≠ l := fun h => hne (h ▸ hk)
    rw [hentry, if_neg hkl, hk]
  · rw [hentry] at hk
    split at hk
    · cases hk
    · exact hk

/-! ## Making directories -/

def Extends (t t' : FileTree) : Prop := ∀ l e, t.entry? l = some e → t'.entry? l = some e

theorem Extends.refl (t : FileTree) : t.Extends t := fun _ _ h => h

theorem Extends.trans {t'' : FileTree} (h : t.Extends t') (h' : t'.Extends t'') : t.Extends t'' :=
  fun l e hl => h' l e (h l e hl)

theorem Extends.opens (h : t.Extends t') : t.Opens t' := fun l => h l .directory

theorem makeDirectory_extends (h : t.makeDirectory path = .ok t') : t.Extends t' := by
  unfold makeDirectory at h
  split at h
  · cases h
  · rename_i l _
    split at h
    · cases h
    · rename_i hnone
      have hnone : t.entry? l = none := by simpa using hnone
      obtain rfl := Except.ok.inj h
      intro k e hk
      rw [entry?_put (by simp [hnone])]
      split
      · rename_i hkl
        rw [hkl, hnone] at hk
        cases hk
      · exact hk

def makeLast (t : FileTree) (path : Text) : Except FileError FileTree :=
  match t.makeDirectory path with
  | .ok t' => .ok t'
  | .error e =>
    match t.find path with
    | .ok .directory => .ok t
    | _ => .error e

theorem makeDirectories_of_error {cause : FileError.Cause} (h : t.find path = .error cause) :
    t.makeDirectories path = match parentPath? path with
      | some p => t.makeDirectories p >>= fun mid => mid.makeLast path
      | none => t.makeLast path := by
  rw [makeDirectories, h]
  dsimp only
  split
  · rename_i p hp
    rw [hp]
    rfl
  · rename_i hp
    rw [hp]
    rfl

theorem makeLast_extends (h : t.makeLast path = .ok t') : t.Extends t' := by
  unfold makeLast at h
  split at h
  · rename_i hmade
    exact Except.ok.inj h ▸ makeDirectory_extends hmade
  · split at h
    · exact Except.ok.inj h ▸ .refl t
    · cases h

theorem makeDirectories_extends (h : t.makeDirectories path = .ok t') : t.Extends t' := by
  induction path using makeDirectories.induct t generalizing t' with
  | case1 path hfind =>
    rw [makeDirectories, hfind] at h
    exact Except.ok.inj h ▸ .refl t
  | case2 path content hfind =>
    rw [makeDirectories, hfind] at h
    cases h
  | case3 path cause hfind p hp ih =>
    rw [makeDirectories_of_error hfind, hp] at h
    obtain ⟨mid, hmid, h⟩ := Outcome.bind_eq_ok.mp h
    exact (ih hmid).trans (makeLast_extends h)
  | case4 path cause hfind hp =>
    rw [makeDirectories_of_error hfind, hp] at h
    exact makeLast_extends h

end ShaderGraph.FileTree
